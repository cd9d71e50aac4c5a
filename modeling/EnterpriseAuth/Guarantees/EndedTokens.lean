import EnterpriseAuth.Effects.Conduct
import EnterpriseAuth.Guarantees.Logout
import EnterpriseAuth.Guarantees.Rotation
import EnterpriseAuth.Requests.Validation

/-!
# Refresh tokens of sessions that have ended

Ending a session on request puts its refresh token on the blacklist for the longest life that a
refresh token can have.  A session that is found to have lapsed is ended without that, so its refresh
token stays off the blacklist.
-/

namespace EnterpriseAuth

open Effects Program SessionService

variable {T : Type} {env : Environment T}

/-! ## Ends -/

/-- A session of the table that is over was over in the base already, with the same refresh token, or
its token is listed. -/
def EndsWithin (base : Table (Session.sessionUuid (T := T))) (listed : Uuid → Prop)
    (table : Table (Session.sessionUuid (T := T))) : Prop :=
  ∀ sid later, table.find sid = some later → later.isActive = false →
    (∃ row, base.find sid = some row ∧ row.isActive = false ∧
      row.refreshTokenId = later.refreshTokenId) ∨ listed later.refreshTokenId

namespace EndsWithin

variable {base table : Table (Session.sessionUuid (T := T))} {listed wider : Uuid → Prop}

theorem refl (base : Table (Session.sessionUuid (T := T))) : EndsWithin base listed base :=
  fun _ later found inactive => .inl ⟨later, found, inactive, rfl⟩

theorem mono (ends : EndsWithin base listed table) (below : ∀ jti, listed jti → wider jti) :
    EndsWithin base wider table :=
  fun sid later found inactive => (ends sid later found inactive).imp_right (below _)

theorem trans {last : Table (Session.sessionUuid (T := T))} (left : EndsWithin base listed table)
    (right : EndsWithin table listed last) : EndsWithin base listed last := by
  intro sid later found inactive
  rcases right sid later found inactive with ⟨row, foundRow, rowInactive, same⟩ | listed
  · rw [← same]
    exact left sid row foundRow rowInactive
  · exact .inr listed

theorem modify (ends : EndsWithin base listed table) (sid : Uuid) (change : Session T → Session T)
    (keeps : ∀ row, (change row).sessionUuid = row.sessionUuid)
    (changed : ∀ row, table.find sid = some row → (change row).isActive = false →
      row.isActive = false ∧ (change row).refreshTokenId = row.refreshTokenId ∨
        listed (change row).refreshTokenId) :
    EndsWithin base listed (table.modify sid change keeps) := by
  intro other later found inactive
  rw [Table.find_modify] at found
  by_cases here : other = sid
  · subst here
    rw [if_pos rfl] at found
    obtain ⟨row, stored, rfl⟩ := Option.map_eq_some_iff.mp found
    rcases changed row stored inactive with ⟨before, same⟩ | listed
    · rw [same]
      exact ends other row stored before
    · exact .inr listed
  · rw [if_neg here] at found
    exact ends other later found inactive

theorem insert (ends : EndsWithin base listed table)
    {extended : Table (Session.sessionUuid (T := T))} {added : Session T}
    (inserted : table.insert added = some extended) (active : added.isActive = true) :
    EndsWithin base listed extended := by
  intro sid later found inactive
  rw [Table.find_insert inserted] at found
  by_cases here : sid = added.sessionUuid
  · rw [if_pos here] at found
    obtain rfl : added = later := Option.some.inj found
    rw [active] at inactive
    cases inactive
  · rw [if_neg here] at found
    exact ends sid later found inactive

end EndsWithin

/-- Both databases of the server end sessions within the base. -/
structure Server.EndsWithin (server : Server T) (base : Table (Session.sessionUuid (T := T)))
    (listed : Uuid → Prop) : Prop where
  working : EnterpriseAuth.EndsWithin base listed server.working.sessions
  committed : EnterpriseAuth.EndsWithin base listed server.committed.sessions

variable {base : Table (Session.sessionUuid (T := T))} {listed : Uuid → Prop}

theorem Server.EndsWithin.mono {server : Server T} {wider : Uuid → Prop}
    (ends : server.EndsWithin base listed) (below : ∀ jti, listed jti → wider jti) :
    server.EndsWithin base wider :=
  ⟨ends.working.mono below, ends.committed.mono below⟩

theorem Server.EndsWithin.commit {server : Server T} (ends : server.EndsWithin base listed) :
    server.commit.EndsWithin base listed :=
  ⟨ends.working, ends.working⟩

/-- The server that a request finds. -/
theorem Server.EndsWithin.start {server : Server T} (settled : server.committed = server.working)
    (same : server.working.sessions = base) : server.EndsWithin base listed := by
  subst same
  refine ⟨.refl _, ?_⟩
  rw [settled]
  exact .refl _

variable [CommRing T] [LinearOrder T]

/-- Where no session may be written, none ends. -/
theorem Follows.endsWithin {permits : Permits T} {before after : Server T}
    (follows : Follows env permits before after) (ends : before.EndsWithin base listed)
    (quiet : ∀ row, ¬ permits.writes row) : after.EndsWithin base listed := by
  refine follows.invariant (fun server => server.EndsWithin base listed) ends ?_
  intro first second ends effect
  cases effect with
  | aside aside =>
    constructor
    · rw [aside.working]
      exact ends.working
    · rw [aside.committed]
      exact ends.committed
  | commit => exact ends.commit
  | touch _ _ _ permitted => exact absurd permitted (quiet _)
  | finish _ _ _ permitted => exact absurd permitted (quiet _)
  | retire | blacklist => exact ⟨ends.working, ends.committed⟩
  | create _ _ begins inserted => exact ⟨ends.working.insert inserted begins.active, ends.committed⟩

/-! ## Revocation -/

variable (env) in
/-- The life of an entry that `revoke_jti` makes: that of a token for `remember_me`. -/
def revocationSeconds : ℕ := TokenService.refreshTtlDays env true * 86400

variable (env) in
/-- The token is on the blacklist for as long as if it were revoked now. -/
def Server.ListsRevoked (server : Server T) (jti : Uuid) : Prop :=
  server.redis.HoldsUntil (.revokedJti jti) (server.clock + (revocationSeconds env : ℕ))

variable (env) in
/-- Every session that has ended since the request came is on the blacklist. -/
def Server.ListsEnds (server : Server T) (base : Table (Session.sessionUuid (T := T))) : Prop :=
  server.EndsWithin base (server.ListsRevoked env)

theorem Server.ListsEnds.aside {frame : Frame T} {before after : Server T}
    (lists : before.ListsEnds env base) (aside : Aside frame before after)
    (sessions : after.working.sessions = before.working.sessions) : after.ListsEnds env base := by
  have below (jti : Uuid) (listed : before.ListsRevoked env jti) : after.ListsRevoked env jti := by
    unfold Server.ListsRevoked at listed ⊢
    rw [aside.clock]
    exact listed.congr (aside.blacklist jti)
  constructor
  · rw [sessions]
    exact lists.working.mono below
  · rw [aside.committed]
    exact lists.committed.mono below

theorem listsEnds_revocation (reason : String) :
    RevocationKeeps env reason (fun _ => True) (fun server => server.ListsEnds env base) := by
  intro server row lists active _
  let barred := server.blacklist row.refreshTokenId (server.clock + (revocationSeconds env : ℕ))
  have listed : barred.ListsRevoked env row.refreshTokenId :=
    ExpiringStore.holdsUntil_put server.redis (.revokedJti row.refreshTokenId) .flag _
  have below (jti : Uuid) (before : server.ListsRevoked env jti) : barred.ListsRevoked env jti := by
    by_cases same : jti = row.refreshTokenId
    · exact same ▸ listed
    · exact before.put_other _ fun equal => same (Key.revokedJti.inj equal)
  have ended : (barred.changeSession row.sessionUuid (ended server.clock reason)
      fun _ => rfl).ListsEnds env base := by
    refine ⟨(lists.working.mono below).modify _ (ended server.clock reason) (fun _ => rfl) ?_,
      lists.committed.mono below⟩
    intro other found _
    obtain rfl : row = other := Option.some.inj (active.1.symm.trans found)
    exact .inr listed
  exact ended.aside (aside_clearCache env _ .reads row.sessionUuid) rfl

/-! ## One request -/

variable (env) in
/-- The request shows the access token of an active session that has lapsed. -/
inductive Server.FindsLapsed (server : Server T) (request : HttpRequest) : Prop
  | of {claims : Claims} {user : User T} {row : Session T}
    (presented : request.accessToken = some (.signed claims)) (live : claims.LiveAccess server.clock)
    (found : server.working.users.find claims.sub = some user) (enabled : user.isActive = true)
    (session : claims.sid = some row.sessionUuid) (held : server.working.Holds row)
    (owner : row.userId = claims.sub) (lapsed : row.Lapsed env server.clock)

theorem Server.FindsLapsed.before {before after : Server T} {request : HttpRequest}
    (lapsed : after.FindsLapsed env request) (working : after.working = before.working)
    (clock : after.clock = before.clock) : before.FindsLapsed env request := by
  obtain ⟨presented, live, found, enabled, session, held, owner, lapsed⟩ := lapsed
  rw [clock] at live lapsed
  rw [working] at found held
  exact ⟨presented, live, found, enabled, session, held, owner, lapsed⟩

variable (env) in
/-- The request ends a session as lapsed. -/
def World.Expires (world : World T) (arrival : Arrival) : Prop :=
  world.LetsPass env arrival ∧ world.server.FindsLapsed env arrival.http ∧
    ∃ route, arrival.route = .withAccess route ∧
      (route.csrfFirst = true → ((verifyCsrf arrival.http).run handle world.server).1 = .ok ())

/-- Nothing has ended yet. -/
def Server.NoEnds (server : Server T) (base : Table (Session.sessionUuid (T := T))) : Prop :=
  server.EndsWithin base fun _ => False

theorem Server.NoEnds.listsEnds {server : Server T} (quiet : server.NoEnds base) :
    server.ListsEnds env base :=
  quiet.mono fun _ => False.elim

theorem ValidationOutcome.noEnds {start final : Server T} {sid userId : Uuid} {row : Session T}
    (outcome : ValidationOutcome env start sid userId (.ok row) final) (start' : start.NoEnds base) :
    final.NoEnds base ∧ final.Active row ∧ row.userId = userId := by
  cases outcome with
  | throttled found owner active =>
    obtain rfl : row.sessionUuid = sid := Table.find_key found
    exact ⟨start', ⟨found, active⟩, owner⟩
  | @touched row found owner active =>
    obtain rfl : row.sessionUuid = sid := Table.find_key found
    refine ⟨⟨?_, start'.committed⟩, Server.Active.touch ⟨found, active⟩, owner⟩
    exact start'.working.modify row.sessionUuid (SessionService.touched start.clock) (fun _ => rfl)
      fun _ _ inactive => .inl ⟨inactive, rfl⟩

theorem verifyCsrf_cases (request : HttpRequest) (server : Server T) :
    (verifyCsrf request).run handle server = (.ok (), server) ∨
      ∃ error, (verifyCsrf request).run handle server = (.error error, server) := by
  unfold verifyCsrf
  split
  · simp only [run_ite, run_throw, run_pure]
    split
    · exact .inr ⟨_, rfl⟩
    · split
      · exact .inr ⟨_, rfl⟩
      · exact .inl rfl
  · exact .inr ⟨_, rfl⟩

theorem verifyCsrf_anywhere (request : HttpRequest) (first second : Server T) :
    ((verifyCsrf request).run handle first).1 = ((verifyCsrf request).run handle second).1 := by
  unfold verifyCsrf
  split
  · simp only [run_ite, run_throw, run_pure]
    split_ifs <;> rfl
  · rfl

section
variable (registry : String → Option Provider) {request : HttpRequest} {start : Server T}

theorem listsEnds_withContext (route : ProtectedRoute) (settled : start.committed = start.working)
    (unlapsed : ¬ start.FindsLapsed env request) :
    ((getAuthContext env request >>= fun context =>
      serveWithContext env registry request context route).run handle start).2.ListsEnds env
      start.working.sessions := by
  have quiet : start.NoEnds start.working.sessions := .start settled rfl
  let base := start.working.sessions
  have served (context : AuthContext T) (middle : Server T) (entry : middle.NoEnds base)
      (live : context.Live middle) :
      ((serveWithContext env registry request context route).run handle middle).2.ListsEnds env
        base := by
    have triple : Triple handle (fun server => server.NoEnds base ∧ context.Live server)
        (serveWithContext env registry request context route)
        (fun _ server => server.ListsEnds env base) fun _ server => server.ListsEnds env base :=
      triple_serveWithContext registry request (fun _ => Server.NoEnds.listsEnds)
        listsEnds_revocation context (fun _ _ => trivial) route fun _ _ entry follows =>
          Server.NoEnds.listsEnds (follows.endsWithin entry fun _ => id)
    cases ran : (serveWithContext env registry request context route).run handle middle with
    | mk result final =>
      cases result with
      | ok page => exact triple.returned ⟨entry, live⟩ ran
      | error error => exact triple.failed ⟨entry, live⟩ ran
  have outcome := run_getAuthContext env start request
  rw [run_bind]
  cases ran : (getAuthContext env request).run handle start with
  | mk result middle =>
    rw [ran] at outcome
    cases outcome with
    | refused => exact quiet.listsEnds
    | rejected presented live session found enabled outcome =>
      cases outcome with
      | refused => exact quiet.listsEnds
      -- authentication ends a session without listing its token, which is assumed away
      | expired stored owner active lapsed =>
        cases Table.find_key stored
        exact absurd (.of presented live found enabled session ⟨stored, active⟩ owner lapsed) unlapsed
    | sessionless => exact served _ _ quiet nofun
    | @validated claims sid user row _ presented live session found enabled outcome =>
      obtain ⟨entry, active, owner⟩ := outcome.noEnds quiet
      refine served _ _ entry fun other same => ?_
      obtain rfl : row = other := Option.some.inj same
      exact ⟨active, owner.trans (Table.find_key found).symm⟩

variable (env) in
theorem listsEnds_serveProtected {route : ProtectedRoute} (settled : start.committed = start.working)
    (unlapsed : (route.csrfFirst = true → ((verifyCsrf request).run handle start).1 = .ok ()) →
      ¬ start.FindsLapsed env request) :
    ((serveProtected env registry request route).run handle start).2.ListsEnds env
      start.working.sessions := by
  unfold serveProtected
  cases first : route.csrfFirst with
  | false =>
    rw [first] at unlapsed
    exact listsEnds_withContext registry route settled (unlapsed nofun)
  | true =>
    rw [if_pos rfl, run_bind]
    rcases verifyCsrf_cases request start with passed | ⟨error, failed⟩
    · rw [passed]
      exact listsEnds_withContext registry route settled (unlapsed fun _ => by rw [passed])
    · rw [failed]
      exact Server.NoEnds.listsEnds (.start settled rfl)

variable [FloorRing T]

omit [CommRing T] [LinearOrder T] [FloorRing T] in
theorem Server.NoEnds.same {before after : Server T} (quiet : before.NoEnds base)
    (working : after.working = before.working) (committed : after.committed = before.committed) :
    after.NoEnds base := by
  refine ⟨?_, ?_⟩
  · rw [working]
    exact quiet.working
  · rw [committed]
    exact quiet.committed

variable (env) in
theorem listsEnds_logoutToken (quiet : start.NoEnds base) (token : Token) :
    ((logoutToken env token).run handle start).2.ListsEnds env base := by
  obtain ⟨result, verified, check⟩ := run_verifyRefresh start token
  simp only [logoutToken, run_bind, verified]
  cases check with
  | rejected => exact quiet.listsEnds
  | replayed => exact quiet.listsEnds
  | @accepted claims live unlisted =>
    simp only [run_revokeToken]
    have revoked : (start.revokeToken claims).NoEnds base :=
      quiet.same (revokeToken_working start claims) (revokeToken_committed start claims)
    cases claims.sid with
    | none => exact revoked.listsEnds
    | some sid =>
      simp only [run_bind, run_view]
      cases found : (start.revokeToken claims).working.sessions.find sid with
      | none => exact revoked.listsEnds
      | some row =>
        obtain rfl : row.sessionUuid = sid := Table.find_key found
        simp only [run_ite, run_revoke env _ _ found, run_pure]
        by_cases active : row.isActive = true
        · rw [if_pos active]
          exact listsEnds_revocation "logout" _ row revoked.listsEnds ⟨found, active⟩ trivial
        · rw [if_neg active]
          exact revoked.listsEnds

variable (env) in
theorem listsEnds_logout (quiet : start.NoEnds base) (request : HttpRequest) :
    ((logout env request).run handle start).2.ListsEnds env base := by
  unfold logout
  rw [run_bind]
  rcases verifyCsrf_cases request start with passed | ⟨error, failed⟩
  · rw [passed]
    cases request.refreshToken with
    | none => exact quiet.listsEnds
    | some token =>
      have lists := listsEnds_logoutToken env quiet token
      simp only [run_bind, run_tryCatch]
      cases ran : (logoutToken env token).run handle start with
      | mk result final =>
        rw [ran] at lists
        cases result with
        | ok => exact lists
        | error error =>
          cases caught : error.kind.isAuthError <;> simpa [caught, run_ite] using lists
  · rw [failed]
    exact quiet.listsEnds

theorem RefreshOutcome.listsEnds {final : Server T} {result : Except AppError (Reply T)}
    (outcome : RefreshOutcome env start request result final) (quiet : start.NoEnds base) :
    final.ListsEnds env base := by
  have rotated (claims : Claims) : (start.rotated claims).NoEnds base :=
    quiet.same (revokeToken_working start claims) (revokeToken_committed start claims)
  cases outcome with
  | refused => exact quiet.listsEnds
  | @replayed claims =>
    obtain same | ⟨row, -, held, same⟩ := afterReplay_cases env start claims
    · rw [same]
      exact quiet.listsEnds
    · have revoked : (start.revoke env row "refresh_replay").ListsEnds env base :=
        listsEnds_revocation "refresh_replay" start row quiet.listsEnds held trivial
      rw [same]
      exact Server.EndsWithin.commit revoked
  | unbound => exact (rotated _).listsEnds
  | @rebound claims sid row presented live unlisted session found active =>
    refine Server.NoEnds.listsEnds ⟨?_, (rotated claims).committed⟩
    refine (rotated claims).working.modify sid (SessionService.rebound start.clock (start.draws + 1))
      (fun _ => rfl) fun other stored inactive => ?_
    rw [rotated_working, found] at stored
    obtain rfl : row = other := Option.some.inj stored
    exact absurd (active.symm.trans inactive) Bool.noConfusion
  | sessionless => exact Server.NoEnds.listsEnds ((rotated _).same rfl rfl)

theorem listsEnds_dispatch {arrival : Arrival} (settled : start.committed = start.working)
    (unlapsed : ∀ route, arrival.route = .withAccess route →
      (route.csrfFirst = true → ((verifyCsrf arrival.http).run handle start).1 = .ok ()) →
        ¬ start.FindsLapsed env arrival.http) :
    ((dispatch env arrival).run handle start).2.ListsEnds env start.working.sessions := by
  have quiet : start.NoEnds start.working.sessions := .start settled rfl
  -- a route that writes no session row ends none
  have others (other : arrival.route ≠ .refresh)
      (writes : ∀ row, ¬ (arrival.permits env start).writes row) :
      ((dispatch env arrival).run handle start).2.ListsEnds env start.working.sessions := by
    have triple := triple_dispatch env start arrival other
    cases ran : (dispatch env arrival).run handle start with
    | mk result final =>
      have follows : Follows env (arrival.permits env start) start final := by
        cases result with
        | ok reply => exact (triple.returned rfl ran).1
        | error error => exact triple.failed rfl ran
      exact Server.NoEnds.listsEnds (follows.endsWithin quiet writes)
  obtain ⟨http, route, registry⟩ := arrival
  cases route with
  | login route => exact others nofun fun _ => id
  | openTo route => exact others nofun fun _ => id
  | refresh => exact (run_refresh env start http).listsEnds quiet
  | logout =>
    have lists := listsEnds_logout env quiet http
    simp only [dispatch, run_map]
    cases ran : (logout env http).run handle start with
    | mk result final =>
      rw [ran] at lists
      cases result <;> exact lists
  | withAccess route =>
    have lists := listsEnds_serveProtected env registry settled (unlapsed route rfl)
    simp only [dispatch, run_map]
    cases ran : (serveProtected env registry http route).run handle start with
    | mk result final =>
      rw [ran] at lists
      cases result <;> exact lists

variable {world : World T} {arrival : Arrival}

/-- A request that finds no lapsed session blacklists the token of every session that it ends. -/
theorem exchange_listsEnds (unlapsed : ¬ world.Expires env arrival) :
    (world.exchange env arrival).after.ListsEnds env world.db.sessions := by
  have lists {limited final : Server T} {result : Except AppError (Reply T)}
      (passes : world.Passes env arrival limited)
      (ran : (dispatch env arrival).run handle limited = (result, final)) :
      final.ListsEnds env world.db.sessions := by
    obtain ⟨settled, working, clock, -⟩ := passes.start
    have lists : ((dispatch env arrival).run handle limited).2.ListsEnds env
        limited.working.sessions := by
      refine listsEnds_dispatch settled fun route routed csrf lapsed => unlapsed ?_
      refine ⟨(World.passes_iff.mp passes).1, lapsed.before working clock, route, routed, ?_⟩
      rw [verifyCsrf_anywhere arrival.http world.server limited]
      exact csrf
    rwa [working, ran] at lists
  have exchanged := exchanged env world arrival
  generalize (world.exchange env arrival).reply = result at exchanged
  generalize (world.exchange env arrival).after = after at exchanged ⊢
  cases exchanged with
  | refused ran =>
    have aside : Aside .reads world.server _ := Within.of_exact .reads ran
    exact Server.NoEnds.listsEnds (.start (aside.committed.trans aside.working.symm)
      (congrArg Database.sessions aside.working))
  | failed passes ran => exact lists passes ran
  | answered passes ran => exact Server.EndsWithin.commit (lists passes ran)

end

/-! ## Lifetimes -/

section
variable [FloorRing T]

variable (env) in
/-- A refresh token expires before an entry that `revoke_jti` makes at the instant. -/
def Claims.Outlived (claims : Claims) (now : T) : Prop :=
  claims.type = .refresh → (claims.exp : T) ≤ now + (revocationSeconds env : ℕ)

omit [FloorRing T] in
theorem keeps_clock {α : Type} (now : T) (program : App T α) :
    Keeps handle (fun server => server.clock = now) program := by
  refine (Program.Every.anything program).keeps fun command server _ same => ?_
  cases command with
  | write change =>
    simp only [handle]
    split <;> exact same
  | _ => exact same

omit [FloorRing T] in
/-- The bind rule for a program whose answer depends on the clock only. -/
theorem triple_atInstant {α β : Type} {now : T} {program : App T α} {rest : α → App T β}
    {final : β → Prop}
    (second : ∀ value, Triple handle (fun server => server.clock = now) (rest value)
      (fun result _ => final result) fun _ _ => True) :
    Triple handle (fun server => server.clock = now) (program >>= rest)
      (fun result _ => final result) fun _ _ => True :=
  Triple.bind ((keeps_clock now program).weaken (fun _ => id) (fun _ _ => id) fun _ _ _ => trivial)
    second

omit [FloorRing T] in
theorem triple_of_every {α : Type} {program : App T α} {before : Server T → Prop} {final : α → Prop}
    (every : ∀ server, before server → program.Every (fun _ => True) final) :
    Triple handle before program (fun result _ => final result) fun _ _ => True := by
  constructor
  intro server known
  have triple : Triple handle (fun _ => True) program (fun result _ => final result) fun _ _ => True :=
    (every server known).triple
  exact triple.outcome server trivial

variable [IsStrictOrderedRing T]

omit [IsStrictOrderedRing T] in
theorem pyInt_le {value : T} (nonneg : 0 ≤ value) : (pyInt value : T) ≤ value := by
  unfold pyInt
  rw [if_pos nonneg]
  exact Int.floor_le value

theorem outlived_mintPair (remembered : env.settings.refreshTokenExpireDays ≤
    env.settings.refreshTokenRememberMeDays) {server : Server T} (epoch : 0 ≤ server.clock)
    (userId : Uuid) (rememberMe : Bool) (sid : Option Uuid) :
    ∀ claims ∈ (server.mintPair env userId rememberMe sid).tokens,
      claims.Outlived env server.clock := by
  intro claims member isRefresh
  simp only [TokenPair.tokens, Server.mintPair, List.mem_cons, List.not_mem_nil, or_false] at member
  rcases member with rfl | rfl
  · cases isRefresh
  · have days : TokenService.refreshTtlDays env rememberMe ≤ TokenService.refreshTtlDays env true := by
      cases rememberMe with
      | true => exact le_rfl
      | false => exact remembered
    have seconds : ((TokenService.refreshTtlDays env rememberMe * 86400 : ℕ) : T) ≤
        (revocationSeconds env : ℕ) :=
      Nat.cast_le.mpr (Nat.mul_le_mul_right 86400 days)
    exact (pyInt_le (add_nonneg epoch (Nat.cast_nonneg _))).trans (add_le_add_right seconds _)

section
variable (remembered : env.settings.refreshTokenExpireDays ≤ env.settings.refreshTokenRememberMeDays)
  {now : T} (epoch : 0 ≤ now) (request : HttpRequest)

include remembered epoch

theorem outlived_finalizeLogin (user : User T) (rememberMe : Bool) :
    Triple handle (fun server => server.clock = now) (finalizeLogin env request user rememberMe)
      (fun reply _ => ∀ claims ∈ reply.issued, claims.Outlived env now) fun _ _ => True := by
  unfold finalizeLogin
  refine triple_atInstant fun sessionUuid => ?_
  have minted : Triple handle (fun server : Server T => server.clock = now)
      (TokenService.issuePair env user.id rememberMe (some sessionUuid))
      (fun issued _ => ∀ claims ∈ issued.1.tokens, claims.Outlived env now) fun _ _ => True := by
    constructor
    rintro server rfl
    rw [run_issuePair]
    exact outlived_mintPair remembered epoch user.id rememberMe (some sessionUuid)
  refine Triple.bind minted fun issued => ?_
  obtain ⟨pair, refreshJti⟩ := issued
  refine triple_of_every fun _ outlived => Every.skip fun created => ?_
  have answers : (uuid4 >>= fun csrfDraw => userRead env user >>= fun read =>
      pure (.auth read (env.tokenUrlsafe csrfDraw) pair) : App T (LoginReply T)).Every
      (fun _ => True) fun reply => ∀ claims ∈ reply.issued, claims.Outlived env now :=
    Every.skip fun _ => Every.skip fun _ => Every.pure outlived
  exact Every.ite (fun _ => Every.skip fun _ => answers) fun _ => answers

/-- No login route issues a refresh token that outlives its revocation. -/
theorem outlived_serveLogin (registry : String → Option Provider) (route : LoginRoute) :
    Triple handle (fun server => server.clock = now) (serveLogin env registry request route)
      (fun reply _ => ∀ claims ∈ reply.issued, claims.Outlived env now) fun _ _ => True := by
  have finalized := outlived_finalizeLogin remembered epoch request
  cases route with
  | register payload =>
    simp only [serveLogin, register]
    refine triple_atInstant fun _ => triple_atInstant fun _ => triple_atInstant fun _ =>
      triple_atInstant fun user => Triple.bind (finalized user false) fun reply => ?_
    exact triple_of_every fun _ outlived => Every.skip fun _ => Every.pure outlived
  | login payload =>
    simp only [serveLogin, login]
    refine triple_atInstant fun _ => triple_atInstant fun _ => triple_atInstant fun _ =>
      triple_atInstant fun user => triple_atInstant fun enabled =>
        Triple.ite (fun _ => ?_) fun _ => finalized user payload.rememberMe
    -- a pre-auth token is no refresh token
    have preAuth : (TokenService.issuePreAuth env user.id).Every (fun _ => True)
        fun claims => claims.type = .preAuth :=
      Every.skip fun _ => Every.skip fun _ => Every.pure rfl
    refine triple_of_every fun _ _ => preAuth.bind fun token isPreAuth => Every.pure ?_
    intro claims member isRefresh
    rw [List.mem_singleton.mp member, isPreAuth] at isRefresh
    cases isRefresh
  | loginOtp payload =>
    simp only [serveLogin, loginOtp]
    exact triple_atInstant fun _ => triple_atInstant fun _ => triple_atInstant fun _ =>
      triple_atInstant fun user => triple_atInstant fun _ => finalized user payload.rememberMe
  | loginRecoveryCode payload =>
    simp only [serveLogin, loginRecoveryCode]
    exact triple_atInstant fun _ => triple_atInstant fun _ => triple_atInstant fun _ =>
      triple_atInstant fun user => triple_atInstant fun _ => finalized user payload.rememberMe
  | oauthCallback provider code state =>
    simp only [serveLogin, oauthCallback]
    refine triple_atInstant fun resolved => ?_
    obtain ⟨user, mode⟩ := resolved
    refine Triple.ite (fun _ => ?_) fun _ => finalized user false
    exact Triple.pure fun _ _ => by simp [LoginReply.issued]

theorem outlived_dispatch (arrival : Arrival) :
    Triple handle (fun server => server.clock = now) (dispatch env arrival)
      (fun reply _ => ∀ claims ∈ reply.issued, claims.Outlived env now) fun _ _ => True := by
  obtain ⟨http, route, registry⟩ := arrival
  cases route with
  | login route =>
    exact Triple.bind (outlived_serveLogin remembered epoch http registry route) fun reply =>
      Triple.pure fun _ => id
  | refresh =>
    constructor
    rintro server rfl
    have outcome := run_refresh env server http
    simp only [dispatch]
    cases ran : (refresh env http).run handle server with
    | mk result final =>
      rw [ran] at outcome
      cases outcome with
      | rebound | sessionless => exact outlived_mintPair remembered epoch _ _ _
      | _ => trivial
  | logout | openTo | withAccess =>
    exact triple_of_every fun _ _ => Every.skip fun _ => Every.pure fun _ => List.not_mem_nil.elim

theorem outlived_exchange {world : World T} {arrival : Arrival} (start : world.clock = now) :
    ∀ claims ∈ (world.exchange env arrival).issued, claims.Outlived env now := by
  intro claims member
  unfold Exchange.issued at member
  split at member
  next reply answered =>
    obtain ⟨limited, final, passes, ran, -⟩ := exchange_answered answered
    exact (outlived_dispatch remembered epoch arrival).returned
      (passes.start.2.2.1.trans start) ran claims member
  next => cases member

end

end

/-! ## Runs -/

section
variable [FloorRing T] {world : World T} {arrival : Arrival}

/-- No two sessions share a refresh token. -/
def World.DistinctTokens (world : World T) : Prop :=
  ∀ sid row other row', world.db.sessions.find sid = some row →
    world.db.sessions.find other = some row' → row.refreshTokenId = row'.refreshTokenId → sid = other

/-- The refresh token of a row that is stored after a request: as before, that of a login, or the one
that a refresh has moved the session on to. -/
theorem token_source (numbered : world.SessionsNumbered) (wellIssued : world.WellIssued)
    (owned : ∀ token ∈ arrival.presented, world.holds token) {sid : Uuid} {later : Session T}
    (found : (world.afterRequest env arrival).db.sessions.find sid = some later) :
    (∃ row, world.db.sessions.find sid = some row ∧ row.refreshTokenId = later.refreshTokenId ∧
      later.refreshTokenId < world.draws) ∨
    (∃ route, arrival.route = .login route) ∧ world.draws ≤ later.refreshTokenId ∧
      later.refreshTokenId = sid + 2 ∨
    arrival.route = .refresh ∧ world.draws ≤ later.refreshTokenId ∧
      ∃ claims, arrival.http.refreshToken = some (.signed claims) ∧ claims.sid = some sid := by
  cases rowSource found with
  | @kept row foundRow same =>
    refine .inl ⟨row, foundRow, same.refreshTokenId.symm, ?_⟩
    rw [same.refreshTokenId]
    exact (numbered sid row foundRow).2
  | opened routed fresh _ points =>
    refine .inr (.inl ⟨⟨_, routed⟩, ?_, points⟩)
    rw [points]
    exact Nat.le_succ_of_le (Nat.le_succ_of_le fresh)
  | @rebound claims pair rotates session issued isRefresh named points =>
    refine .inr (.inr ⟨rotates.routed, ?_, claims, rotates.presented, session⟩)
    have member : pair.refresh ∈ (world.exchange env arrival).issued := by
      rw [issued]
      simp [TokenPair.tokens]
    rw [points]
    exact ((exchange_mints env wellIssued owned).numbered member).1

variable (env) in
theorem distinctTokens_afterRequest (distinct : world.DistinctTokens)
    (numbered : world.SessionsNumbered) (wellIssued : world.WellIssued)
    (owned : ∀ token ∈ arrival.presented, world.holds token) :
    (world.afterRequest env arrival).DistinctTokens := by
  intro sid row other row' found found' same
  rcases token_source numbered wellIssued owned found with
    ⟨first, foundFirst, kept, old⟩ | ⟨login, new, opened⟩ | ⟨refresh, new, claims, presented, session⟩
  · rcases token_source numbered wellIssued owned found' with
      ⟨second, foundSecond, kept', -⟩ | ⟨-, new, -⟩ | ⟨-, new, -⟩
    · exact distinct sid first other second foundFirst foundSecond
        (kept.trans (same.trans kept'.symm))
    · exact absurd (same ▸ old) (not_lt.mpr new)
    · exact absurd (same ▸ old) (not_lt.mpr new)
  · rcases token_source numbered wellIssued owned found' with
      ⟨-, -, -, old⟩ | ⟨-, -, opened'⟩ | ⟨refresh, -⟩
    · exact absurd (same ▸ old) (not_lt.mpr new)
    · exact Nat.add_right_cancel (opened.symm.trans (same.trans opened'))
    · obtain ⟨route, routed⟩ := login
      rw [routed] at refresh
      cases refresh
  · rcases token_source numbered wellIssued owned found' with
      ⟨-, -, -, old⟩ | ⟨⟨route, routed⟩, -⟩ | ⟨-, -, claims', presented', session'⟩
    · exact absurd (same ▸ old) (not_lt.mpr new)
    · rw [routed] at refresh
      cases refresh
    · obtain rfl : claims = claims' :=
        Token.signed.inj (Option.some.inj (presented.symm.trans presented'))
      exact Option.some.inj (session.symm.trans session')

theorem distinctTokens_of_reachable (reachable : (service env).Reachable world) :
    world.DistinctTokens := by
  refine System.Reachable.invariant World.DistinctTokens reachable ?_ ?_
  · intro first starts sid row other row' found
    rw [starts.noSessions] at found
    cases found
  · intro before event after earlier distinct step
    cases step with
    | tick => exact distinct
    | request owned =>
      exact distinctTokens_afterRequest env distinct (numbered_of_reachable earlier)
        (wellIssued_of_reachable earlier) owned
    | setUserActive => exact distinct

variable (env) in
/-- The clock has reached the epoch, and the request finds no lapsed session. -/
def SparesLapsed (world : World T) : Event T → Prop
  | .request arrival => 0 ≤ world.clock ∧ ¬ world.Expires env arrival
  | .tick _ | .setUserActive _ _ => True

/-- The refresh tokens of ended sessions are barred for as long as they live. -/
def World.EndsBarred (world : World T) : Prop :=
  ∀ sid row, world.db.sessions.find sid = some row → row.isActive = false →
    ∀ claims ∈ world.issued, claims.type = .refresh → claims.jti = row.refreshTokenId →
      world.server.Bars (fun row => row.isActive = false) claims.jti (claims.exp : T)

theorem endsBarred_afterRequest (barred : world.EndsBarred) (distinct : world.DistinctTokens)
    (numbered : world.SessionsNumbered) (wellIssued : world.WellIssued)
    (outlived : ∀ claims ∈ (world.afterRequest env arrival).issued, claims.Outlived env world.clock)
    (owned : ∀ token ∈ arrival.presented, world.holds token)
    (unlapsed : ¬ world.Expires env arrival) : (world.afterRequest env arrival).EndsBarred := by
  intro sid row found inactive claims issued isRefresh current
  rcases (exchange_listsEnds unlapsed).committed sid row found inactive with
    ⟨earlier, foundEarlier, ended, same⟩ | listed
  · have old := (numbered sid earlier foundEarlier).2
    rw [same, ← current] at old
    rcases (World.mem_issued_afterRequest claims).mp issued with new | before
    · have drawn := ((exchange_mints env wellIssued owned).numbered new).1
      exact absurd old (not_lt.mpr drawn)
    · have bars := barred sid earlier foundEarlier ended claims before isRefresh
        (current.trans same.symm)
      refine bars_afterRequest bars old fun shown presented live unlisted equal => ?_
      -- a client that presents the token finds it listed
      obtain rfl := wellIssued.distinct shown (owned _ (Arrival.mem_presented_refresh presented))
        claims before live.isRefresh isRefresh equal
      exact unlisted (bars.listed world.clock live.unexpired)
  · have distinctAfter := distinctTokens_afterRequest env distinct numbered wellIssued owned
    have pointed : PointedAt (fun row => row.isActive = false)
        (world.afterRequest env arrival).db.sessions claims.jti := by
      intro other row' found' points
      obtain rfl : sid = other := distinctAfter sid row other row' found found'
        (current.symm.trans points.symm)
      obtain rfl : row = row' := Option.some.inj (found.symm.trans found')
      exact inactive
    refine ⟨?_, pointed, pointed⟩
    have clock : (world.exchange env arrival).after.clock = world.clock :=
      (served env world arrival).clock
    rw [Server.ListsRevoked, clock, ← current] at listed
    exact listed.mono (outlived claims issued isRefresh)

/-- What the runs that find no lapsed session keep. -/
theorem endsBarred_of_reachable [IsStrictOrderedRing T]
    (remembered : env.settings.refreshTokenExpireDays ≤ env.settings.refreshTokenRememberMeDays)
    (reachable : ((service env).guarded (SparesLapsed env)).Reachable world) :
    (∀ claims ∈ world.issued, claims.Outlived env world.clock) ∧ world.EndsBarred := by
  refine System.Reachable.invariant
    (fun world => (∀ claims ∈ world.issued, claims.Outlived env world.clock) ∧ world.EndsBarred)
    reachable ?_ ?_
  · intro first starts
    refine ⟨fun claims issued => ?_, fun sid row found => ?_⟩
    · simp [World.issued, starts.noHistory] at issued
    · rw [starts.noSessions] at found
      cases found
  · rintro before event after earlier ⟨outlived, barred⟩ ⟨spares, step⟩
    have reached := earlier.of_guarded
    cases step with
    -- time moves no row and lists nothing
    | tick later =>
      refine ⟨fun claims issued isRefresh => ?_,
        fun sid row found inactive claims issued isRefresh current => ?_⟩
      · exact (outlived claims issued isRefresh).trans (add_le_add_left later _)
      · have bars := barred sid row found inactive claims issued isRefresh current
        exact ⟨bars.listed, bars.working, bars.committed⟩
    | @request arrival owned =>
      have clock : (before.exchange env arrival).after.clock = before.clock :=
        (served env before arrival).clock
      have outlivedAfter : ∀ claims ∈ (before.afterRequest env arrival).issued,
          claims.Outlived env before.clock := by
        intro claims issued
        rcases (World.mem_issued_afterRequest claims).mp issued with new | old
        · exact outlived_exchange remembered spares.1 rfl claims new
        · exact outlived claims old
      refine ⟨?_, endsBarred_afterRequest barred (distinctTokens_of_reachable reached)
        (numbered_of_reachable reached) (wellIssued_of_reachable reached) outlivedAfter owned spares.2⟩
      intro claims issued
      rw [show (before.afterRequest env arrival).clock = before.clock from clock]
      exact outlivedAfter claims issued
    | setUserActive =>
      refine ⟨outlived, fun sid row found inactive claims issued isRefresh current => ?_⟩
      have bars := barred sid row found inactive claims issued isRefresh current
      exact ⟨bars.listed, bars.working, bars.committed⟩

/-- The refresh token of an ended session is on the blacklist until it expires. -/
def World.ListsEndedTokens (world : World T) : Prop :=
  ∀ sid row, world.db.sessions.find sid = some row → row.isActive = false →
    ∀ claims ∈ world.issued, claims.type = .refresh → claims.jti = row.refreshTokenId →
      world.clock < (claims.exp : T) → world.server.Blacklisted claims.jti

/-- The tokens of ended sessions are listed in all runs in which no request ends a session as
lapsed. -/
theorem ended_tokens_listed [IsStrictOrderedRing T]
    (remembered : env.settings.refreshTokenExpireDays ≤ env.settings.refreshTokenRememberMeDays)
    (reachable : ((service env).guarded (SparesLapsed env)).Reachable world) :
    world.ListsEndedTokens := by
  obtain ⟨-, barred⟩ := endsBarred_of_reachable remembered reachable
  intro sid row found inactive claims issued isRefresh current unexpired
  exact (barred sid row found inactive claims issued isRefresh current).listed world.clock unexpired

omit [FloorRing T] in
theorem sparesLapsed_of_route (epoch : 0 ≤ world.clock)
    (other : ∀ route, arrival.route ≠ .withAccess route) :
    SparesLapsed env world (.request arrival) := by
  refine ⟨epoch, fun expires => ?_⟩
  obtain ⟨-, -, route, routed, -⟩ := expires
  exact other route routed

theorem ended_tokens_listed_after_logout :
    (aliceRegistered.afterRequest demo (logoutWith aliceRefresh)).ListsEndedTokens := by
  have start : ((service demo).guarded (SparesLapsed demo)).Reachable World.new := .start World.new_starts
  have registered : ((service demo).guarded (SparesLapsed demo)).step World.new
      (.request registerAlice) aliceRegistered :=
    ⟨sparesLapsed_of_route le_rfl nofun, .request (by decide +kernel)⟩
  have loggedOut : ((service demo).guarded (SparesLapsed demo)).step aliceRegistered
      (.request (logoutWith aliceRefresh)) (aliceRegistered.afterRequest demo (logoutWith aliceRefresh)) :=
    ⟨sparesLapsed_of_route (by decide +kernel) nofun, .request (by decide +kernel)⟩
  exact ended_tokens_listed (by decide) ((start.step registered).step loggedOut)

end

/-! ## A session that lapses -/

/-- Alice's second pair, of the last minutes of her session. -/
def aliceLateAccess : Claims :=
  { sub := 1, type := .access, jti := 7, iat := 604700, exp := 605600, sid := some 2 }

def aliceLateRefresh : Claims :=
  { sub := 1, type := .refresh, jti := 8, iat := 604700, exp := 1209500, sid := some 2 }

/-- Alice refreshes in time, and her session reaches its absolute expiry before her token. -/
def aliceLapsed : World ℚ :=
  aliceRegistered.play demo
    [.tick 604700, .request (refreshWith aliceRefresh), .tick 604800,
      .request (withAccess aliceLateAccess .me)]

/-- The session is inactive and its refresh token is not on the blacklist. -/
theorem lapsed_session_keeps_token :
    ¬ ∀ world, (service demo).Reachable world → world.ListsEndedTokens := by
  intro lists
  have reachable : (service demo).Reachable aliceLapsed :=
    reachable_aliceRegistered.leads (leads_play (by decide +kernel))
  have ended : (aliceLapsed.db.sessions.find 2).any
      fun row => !row.isActive && row.refreshTokenId = 8 := by decide +kernel
  obtain ⟨row, found, facts⟩ := (Option.any_eq_true _ _).mp ended
  simp only [Bool.and_eq_true, Bool.not_eq_true', decide_eq_true_eq] at facts
  have listed := lists aliceLapsed reachable 2 row found facts.1 aliceLateRefresh
    (by decide +kernel) rfl facts.2.symm (by decide +kernel)
  exact absurd listed (by decide +kernel)

end EnterpriseAuth
