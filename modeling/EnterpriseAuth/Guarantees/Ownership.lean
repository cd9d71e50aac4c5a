import EnterpriseAuth.Effects.Conduct
import EnterpriseAuth.Guarantees.Logout

/-!
# Tokens, sessions and their owners

The session that a token names belongs to the subject of the token, and rotation hands subject,
session and `remember_me` on.  So the operations that act on the session id of a token without
looking at the owner of the row, replay handling and logout, only reach rows of the token's subject,
as do the session routes behind an access token.
-/

namespace EnterpriseAuth

open Effects Program SessionService

variable {T : Type} {env : Environment T}

/-! ## Whose rows a request is about -/

def Token.subject : Token → Option Uuid
  | .signed claims => some claims.sub
  | .unsigned _ => none

/-- The user in whose name a request acts: the subject of the token that its route goes by. -/
def Arrival.actor (arrival : Arrival) : Option Uuid :=
  match arrival.route with
  | .withAccess _ => arrival.http.accessToken.bind Token.subject
  | .refresh | .logout => arrival.http.refreshToken.bind Token.subject
  | .login _ | .openTo _ => none

/-- The session rows that a page shows. -/
def Page.sessionRows : Page T → List (Session T)
  | .session read => [read.session]
  | .sessions items .. => items.map (·.session)
  | .lastLogin previous => previous.toList
  | _ => []

def Reply.sessionRows : Reply T → List (Session T)
  | .page shown => shown.sessionRows
  | .login _ | .refreshed .. => []

/-! ## Disclosure -/

/-- All rows on the page belong to the user. -/
def Page.ShowsOnly (page : Page T) (userId : Uuid) : Prop :=
  ∀ row ∈ page.sessionRows, row.userId = userId

theorem Page.showsOnly_of_empty {page : Page T} (empty : page.sessionRows = []) (userId : Uuid) :
    page.ShowsOnly userId := by
  simp [ShowsOnly, empty]

theorem owner_of_mem_listForUser [LinearOrder T] {db : Database T} {userId : Uuid}
    {activeOnly : Bool} {row : Session T} (member : row ∈ db.listForUser userId activeOnly) :
    row.userId = userId := by
  have stored := (List.perm_insertionSort _ _).mem_iff.mp member
  simp only [List.mem_filter, Bool.and_eq_true, decide_eq_true_eq] at stored
  exact stored.2.1

/-- The program calls what it likes and returns nothing unwanted. -/
abbrev Returns {α : Type} (program : App T α) (wanted : α → Prop) : Prop :=
  program.Every (fun _ => True) wanted

theorem returns_getOwned (user : User T) (sessionUuid : Uuid) :
    Returns (getOwned user sessionUuid) fun row => row.userId = user.id := by
  apply Every.skip
  intro db
  cases db.sessions.find sessionUuid with
  | none => exact Every.throw _
  | some row => exact Every.ite (fun _ => Every.throw _) fun owned => Every.pure (not_not.mp owned)

theorem returns_previousLogin [LinearOrder T] (user : User T) (current : Session T) :
    Returns (previousLogin user current) fun previous => ∀ row ∈ previous, row.userId = user.id := by
  apply Every.skip
  intro db
  refine Every.pure fun row latest => ?_
  have member := List.argmax_mem latest
  rw [List.mem_filter] at member
  exact owner_of_mem_listForUser member.1

section
variable [CommRing T] [LinearOrder T] (registry : String → Option Provider) (request : HttpRequest)
  (context : AuthContext T)

/-- A route shows its caller no row of anybody else. -/
theorem returns_serveWithContext (route : ProtectedRoute) :
    Returns (serveWithContext env registry request context route)
      fun page => page.ShowsOnly context.user.id := by
  cases route with
  | listSessions limit offset =>
    refine Every.skip fun current => Every.skip fun _ => Every.skip fun db => Every.pure ?_
    intro row shown
    simp only [Page.sessionRows, List.map_map, List.mem_map, Function.comp_apply] at shown
    obtain ⟨stored, listed, rfl⟩ := shown
    exact owner_of_mem_listForUser (List.mem_of_mem_drop (List.mem_of_mem_take listed))
  | getSession sessionId =>
    refine Every.skip fun current => Every.bind (returns_getOwned context.user sessionId) ?_
    intro row owned
    refine Every.pure fun shown member => ?_
    rw [List.mem_singleton.mp member]
    exact owned
  | lastLogin =>
    refine Every.skip fun current => Every.bind (returns_previousLogin context.user current) ?_
    intro previous owned
    refine Every.pure fun row member => owned row ?_
    simpa [Page.sessionRows] using member
  -- the pages of the other routes have no session rows
  | me | readMe | twoFactorStatus | resendVerification | oauthLinks | oauthLink | twoFactorQrcode
  | revokeSession =>
    exact Every.skip fun _ => Every.pure (Page.showsOnly_of_empty rfl _)
  | logoutCurrent | logoutAll =>
    exact Every.skip fun _ => Every.skip fun _ => Every.pure (Page.showsOnly_of_empty rfl _)
  | changeEmail =>
    exact Every.skip fun _ => Every.skip fun _ => Every.skip fun _ =>
      Every.pure (Page.showsOnly_of_empty rfl _)
  | twoFactorSetup | twoFactorVerify | twoFactorDisable | listUsers =>
    exact Every.skip fun _ => Every.skip fun _ => Every.skip fun _ => Every.skip fun _ =>
      Every.pure (Page.showsOnly_of_empty rfl _)
  | recoveryCodes | regenerateRecoveryCodes =>
    exact Every.skip fun _ => Every.skip fun _ => Every.skip fun _ => Every.skip fun _ =>
      Every.skip fun _ => Every.skip fun _ => Every.pure (Page.showsOnly_of_empty rfl _)

theorem triple_serveProtected_shows (start : Server T) (route : ProtectedRoute) :
    Triple handle (· = start) (serveProtected env registry request route)
      (fun page _ => ∃ claims, request.accessToken = some (.signed claims) ∧
        page.ShowsOnly claims.sub)
      fun _ _ => True := by
  have served : Triple handle (fun _ => True)
      (getAuthContext env request >>= fun context =>
        serveWithContext env registry request context route)
      (fun page _ => ∃ claims, request.accessToken = some (.signed claims) ∧
        page.ShowsOnly claims.sub)
      fun _ _ => True := by
    constructor
    intro server _
    refine Triple.outcome (Triple.bind ((triple_getAuthContext server request).weaken (fun _ => id)
      (fun _ _ => id) fun _ _ _ => trivial) fun context => ?_) server (.refl server)
    constructor
    rintro later ⟨-, -, claims, presented, owner⟩
    have shows : Triple handle (fun _ => True)
        (serveWithContext env registry request context route)
        (fun page _ => page.ShowsOnly context.user.id) fun _ _ => True :=
      (returns_serveWithContext registry request context route).triple
    refine (shows.weaken (fun _ => id) (fun page _ own => ?_) fun _ _ => id).outcome later trivial
    exact ⟨claims, presented, owner ▸ own⟩
  simp only [serveProtected]
  exact Triple.ite (fun _ => Triple.skip fun _ => served) fun _ =>
    served.weaken (fun _ _ => trivial) (fun _ _ => id) fun _ _ => id

variable [FloorRing T] {world : World T} {arrival : Arrival}

/-- A route without access token shows no session row at all. -/
theorem returns_dispatch (other : ∀ route, arrival.route ≠ .withAccess route) :
    Returns (dispatch env arrival) fun reply => reply.sessionRows = [] := by
  obtain ⟨http, route, providers⟩ := arrival
  cases route with
  | login route => exact Every.skip fun _ => Every.pure rfl
  -- outside authentication no answer holds session rows
  | refresh =>
    simp only [dispatch, refresh]
    cases http.refreshToken with
    | none => exact Every.throw _
    | some token =>
      apply Every.skip
      intro rotated
      obtain ⟨userId, sid, pair, refreshJti⟩ := rotated
      cases sid with
      | none => exact Every.skip fun _ => Every.pure rfl
      | some sid => exact Every.skip fun _ => Every.skip fun _ => Every.pure rfl
  | logout =>
    refine Every.map (Every.skip fun _ => ?_)
    cases http.refreshToken with
    | none => exact Every.pure rfl
    | some token => exact Every.skip fun _ => Every.pure rfl
  | openTo route =>
    apply Every.map
    cases route with
    | verifyEmail => exact Every.skip fun _ => Every.skip fun _ => Every.pure rfl
    | forgotPassword =>
      exact Every.skip fun _ => Every.skip fun _ => Every.skip fun _ => Every.pure rfl
    | resetPassword =>
      exact Every.skip fun _ => Every.skip fun _ => Every.skip fun _ => Every.pure rfl
    | confirmEmailChange => exact Every.skip fun _ => Every.skip fun _ => Every.pure rfl
    | oauthAuthorize => exact Every.skip fun _ => Every.pure rfl
  | withAccess route => exact absurd rfl (other route)

/-- The rows in an answer belong to the user in whose name the request acts. -/
theorem shows_own_rows {reply : Reply T} (answered : (world.exchange env arrival).reply = .ok reply)
    {row : Session T} (shown : row ∈ reply.sessionRows) : arrival.actor = some row.userId := by
  obtain ⟨limited, final, -, ran, -⟩ := exchange_answered answered
  by_cases other : ∀ route, arrival.route ≠ .withAccess route
  · have triple : Triple handle (· = limited) (dispatch env arrival)
        (fun reply _ => reply.sessionRows = []) fun _ _ => True := (returns_dispatch other).triple
    rw [triple.returned rfl ran] at shown
    cases shown
  · simp only [not_forall, not_not] at other
    obtain ⟨route, routed⟩ := other
    simp only [dispatch, routed, run_map] at ran
    split at ran
    next shownPage served inner =>
      cases ran
      obtain ⟨claims, presented, own⟩ :=
        (triple_serveProtected_shows arrival.registry arrival.http limited route).returned rfl inner
      simp [Arrival.actor, routed, presented, Token.subject, own row shown]
    next => cases ran

/-! ## Isolation -/

/-- The row is stored and is about to be stored still. -/
structure Server.Stores (server : Server T) (sid : Uuid) (row : Session T) : Prop where
  working : server.working.sessions.find sid = some row
  committed : server.committed.sessions.find sid = some row

omit [CommRing T] [LinearOrder T] [FloorRing T] in
theorem Server.Stores.changeSession {server : Server T} {sid other : Uuid} {row : Session T}
    (stores : server.Stores sid row) (elsewhere : sid ≠ other) (change : Session T → Session T)
    (keeps : ∀ session, (change session).sessionUuid = session.sessionUuid) :
    (server.changeSession other change keeps).Stores sid row :=
  ⟨(find_changeSession server other sid change keeps).trans
    ((if_neg elsewhere).trans stores.working), stores.committed⟩

omit [FloorRing T] in
/-- A row that may not be written stays as it is. -/
theorem Follows.stores {permits : Permits T} {before after : Server T} {sid : Uuid}
    {row : Session T} (follows : Follows env permits before after) (stores : before.Stores sid row)
    (spared : ¬ permits.writes row) : after.Stores sid row := by
  refine follows.invariant (fun server => server.Stores sid row) stores ?_
  intro first second stores effect
  -- the row that an effect writes may be written, so it is another one
  have elsewhere {other : Session T} (found : first.working.sessions.find other.sessionUuid = some other)
      (permitted : permits.writes other) : sid ≠ other.sessionUuid := by
    intro same
    rw [← same, stores.working] at found
    cases found
    exact spared permitted
  cases effect with
  | aside aside =>
    constructor
    · rw [show second.working.sessions = first.working.sessions from aside.working]
      exact stores.working
    · rw [aside.committed]
      exact stores.committed
  | commit => exact ⟨stores.working, stores.working⟩
  | touch found _ _ permitted =>
    exact stores.changeSession (elsewhere found permitted) (touched first.clock) fun _ => rfl
  | finish reason found _ permitted =>
    exact stores.changeSession (elsewhere found permitted) (ended first.clock reason) fun _ => rfl
  | retire => exact ⟨stores.working, stores.committed⟩
  | blacklist => exact ⟨stores.working, stores.committed⟩
  | @create added _ _ _ _ inserted =>
    exact ⟨Table.find_insert_of_found inserted stores.working, stores.committed⟩

/-- A refresh writes the row that its token names, and no other. -/
theorem RefreshOutcome.stores {start final : Server T} {request : HttpRequest}
    {result : Except AppError (Reply T)} (outcome : RefreshOutcome env start request result final)
    {sid : Uuid} {row : Session T} (stores : start.Stores sid row)
    (spared : ∀ claims, request.refreshToken = some (.signed claims) → claims.type = .refresh →
      claims.sid ≠ some sid) : final.Stores sid row := by
  have rotated (claims : Claims) : (start.rotated claims).Stores sid row := by
    constructor
    · rw [rotated_working]
      exact stores.working
    · rw [rotated_committed]
      exact stores.committed
  cases outcome with
  | refused => exact stores
  | @replayed claims presented live =>
    have other := spared claims presented live.isRefresh
    obtain same | ⟨ended, session, -, same⟩ := afterReplay_cases env start claims
    · rw [same]
      exact stores
    · -- a replay ends the session that the token names
      have elsewhere : sid ≠ ended.sessionUuid := fun same => other (same ▸ session)
      have kept : (start.revoke env ended "refresh_replay").working.sessions.find sid =
          some row := by
        rw [find_revoke, if_neg elsewhere]
        exact stores.working
      rw [same]
      exact ⟨kept, kept⟩
  | unbound => exact rotated _
  | @rebound claims named _ presented live _ session =>
    have elsewhere : sid ≠ named := fun same =>
      spared claims presented live.isRefresh (same ▸ session)
    constructor
    · rw [find_followed, if_neg elsewhere]
      exact stores.working
    · rw [followed_committed]
      exact stores.committed
  | sessionless => exact ⟨(rotated _).working, (rotated _).committed⟩

omit [CommRing T] [LinearOrder T] [FloorRing T] in
/-- The session of a refresh token that a client holds belongs to the token's subject. -/
theorem World.WellIssued.owner (wellIssued : world.WellIssued) {claims : Claims} {sid : Uuid}
    {row : Session T} (held : world.holds (.signed claims)) (isRefresh : claims.type = .refresh)
    (session : claims.sid = some sid) (found : world.db.sessions.find sid = some row) :
    row.userId = claims.sub := by
  obtain ⟨bound, named, foundBound, owner⟩ := wellIssued.bound claims held (by simp [isRefresh])
  rw [session] at named
  cases named
  rw [found] at foundBound
  cases foundBound
  exact owner

variable {sid : Uuid} {row : Session T}

/-- No request changes a row of somebody else than the user in whose name it acts. -/
theorem keeps_other_rows (wellIssued : world.WellIssued)
    (owned : ∀ token ∈ arrival.presented, world.holds token)
    (found : world.db.sessions.find sid = some row) (foreign : arrival.actor ≠ some row.userId) :
    (world.afterRequest env arrival).db.sessions.find sid = some row := by
  have served := served env world arrival
  change (world.exchange env arrival).after.committed.sessions.find sid = some row
  generalize (world.exchange env arrival).reply = result at served
  generalize (world.exchange env arrival).after = after at served
  have start {limited : Server T} (aside : Aside .reads world.server limited) :
      limited.Stores sid row := by
    constructor
    · rw [show limited.working = world.db from aside.working]
      exact found
    · rw [aside.committed]
      exact found
  have key := Table.find_key found
  -- the refresh token of another user names another session
  have otherSession (routed : arrival.route = .refresh ∨ arrival.route = .logout)
      (claims : Claims) (presented : arrival.http.refreshToken = some (.signed claims))
      (isRefresh : claims.type = .refresh) : claims.sid ≠ some sid := by
    intro session
    have held := owned _ (Arrival.mem_presented_refresh presented)
    have owner := wellIssued.owner held isRefresh session found
    apply foreign
    cases routed with
    | inl routed => simp [Arrival.actor, routed, presented, Token.subject, owner]
    | inr routed => simp [Arrival.actor, routed, presented, Token.subject, owner]
  have spared (limited : Server T) (other : arrival.route ≠ .refresh) :
      ¬ (arrival.permits env limited).writes row := by
    intro permitted
    cases routed : arrival.route with
    | login | openTo => simp [Arrival.permits, routed, Permits.none, Permits.creating] at permitted
    | refresh => exact other routed
    | logout =>
      simp only [Arrival.permits, routed] at permitted
      obtain ⟨claims, presented, isRefresh, session⟩ := permitted
      exact otherSession (.inr routed) claims presented isRefresh (key ▸ session)
    | withAccess =>
      simp only [Arrival.permits, routed] at permitted
      obtain ⟨claims, presented, owner⟩ := permitted
      exact foreign (by simp [Arrival.actor, routed, presented, Token.subject, owner])
  cases served with
  | refused aside => exact (start aside).committed
  | failed passes other follows =>
    exact (follows.stores (start passes.aside) (spared _ other)).committed
  | answered passes other follows =>
    exact (follows.stores (start passes.aside) (spared _ other)).working
  | refreshFailed passes isRefresh outcome =>
    exact (outcome.stores (start passes.aside) (otherSession (.inl isRefresh))).committed
  | refreshAnswered passes isRefresh outcome =>
    exact (outcome.stores (start passes.aside) (otherSession (.inl isRefresh))).working

/-! ## Chains of rotations -/

/-- The refresh token was exchanged for the pair. -/
structure Exchange.RotatesInto (exchange : Exchange T) (claims : Claims) (pair : TokenPair) :
    Prop where
  isRefresh : exchange.arrival.route = .refresh
  presented : exchange.arrival.http.refreshToken = some (.signed claims)
  answered : ∃ csrf, exchange.reply = .ok (.refreshed csrf pair)

/-- The pair belongs to the subject and session of the token and keeps its `remember_me`. -/
structure TokenPair.Inherits (pair : TokenPair) (claims : Claims) : Prop where
  access_sub : pair.access.sub = claims.sub
  access_sid : pair.access.sid = claims.sid
  sub : pair.refresh.sub = claims.sub
  sid : pair.refresh.sid = claims.sid
  rememberMe : pair.refresh.rememberMe = claims.rememberMe

omit [CommRing T] [LinearOrder T] [FloorRing T] in
theorem TokenPair.Inherits.trans {first second : TokenPair} {claims : Claims}
    (left : first.Inherits claims) (right : second.Inherits first.refresh) :
    second.Inherits claims :=
  ⟨right.access_sub.trans left.sub, right.access_sid.trans left.sid, right.sub.trans left.sub,
    right.sid.trans left.sid, right.rememberMe.trans left.rememberMe⟩

theorem inherits_nextPair (server : Server T) (claims : Claims) :
    (server.nextPair env claims).Inherits claims :=
  ⟨rfl, rfl, rfl, rfl, rfl⟩

theorem inherits_of_rotates {claims : Claims} {pair : TokenPair}
    (rotates : (world.exchange env arrival).RotatesInto claims pair) : pair.Inherits claims := by
  obtain ⟨isRefresh, presented, csrf, answered⟩ := rotates
  have served := served env world arrival
  rw [answered] at served
  generalize (world.exchange env arrival).after = after at served
  cases served with
  | answered _ other => exact absurd isRefresh other
  | refreshAnswered _ _ outcome =>
    cases outcome with
    | rebound shown =>
      cases Option.some.inj (shown.symm.trans presented)
      exact inherits_nextPair _ _
    | sessionless shown =>
      cases Option.some.inj (shown.symm.trans presented)
      exact inherits_nextPair _ _

/-- The pair stands at the end of a chain of one or more rotations that the token began. -/
inductive World.RotatedTo (world : World T) (claims : Claims) : TokenPair → Prop
  | once {exchange : Exchange T} {pair : TokenPair} (member : exchange ∈ world.history)
    (rotates : exchange.RotatesInto claims pair) : RotatedTo world claims pair
  | again {exchange : Exchange T} {first second : TokenPair}
    (chain : RotatedTo world claims first) (member : exchange ∈ world.history)
    (rotates : exchange.RotatesInto first.refresh second) : RotatedTo world claims second

theorem inherits_of_chain (reachable : (service env).Reachable world) {claims : Claims}
    {pair : TokenPair} (chain : world.RotatedTo claims pair) : pair.Inherits claims := by
  have each : ∀ exchange ∈ world.history, ∀ claims pair, exchange.RotatesInto claims pair →
      pair.Inherits claims :=
    history_of_reachable (fun _ _ _ _ _ _ => inherits_of_rotates) reachable
  induction chain with
  | once member rotates => exact each _ member _ _ rotates
  | again _ member rotates inductionHypothesis =>
    exact inductionHypothesis.trans (each _ member _ _ rotates)

/-! ## Tokens, sessions and owners -/

/-- Every token handed out belongs to a stored session of its subject, rotations hand on subject,
session and `remember_me`, and a request neither changes nor shows the row of another user than the
one in whose name it acts. -/
theorem tokens_sessions_owners_bound (reachable : (service env).Reachable world) :
    (∀ claims ∈ world.issued, claims.type ≠ .preAuth → claims.BoundIn world.db.sessions) ∧
      (∀ claims pair, world.RotatedTo claims pair → pair.Inherits claims) ∧
      ∀ arrival : Arrival, (∀ token ∈ arrival.presented, world.holds token) →
        (∀ sid row, world.db.sessions.find sid = some row → arrival.actor ≠ some row.userId →
          (world.afterRequest env arrival).db.sessions.find sid = some row) ∧
        ∀ reply, (world.exchange env arrival).reply = .ok reply →
          ∀ row ∈ reply.sessionRows, arrival.actor = some row.userId := by
  have wellIssued := wellIssued_of_reachable reachable
  refine ⟨wellIssued.bound, fun _ _ => inherits_of_chain reachable, fun arrival owned => ?_⟩
  exact ⟨fun _ _ => keeps_other_rows wellIssued owned, fun _ answered _ => shows_own_rows answered⟩

/-! ## Alice and Bob -/

/-- Alice exchanges her refresh token after Bob has registered. -/
def aliceExchanged : World ℚ := bothRegistered.next demo (.request (refreshWith aliceRefresh))

/-- The pair that she is given. -/
def aliceNextPair : TokenPair where
  access := { sub := 1, type := .access, jti := 14, iat := 0, exp := 900, sid := some 2 }
  refresh := { sub := 1, type := .refresh, jti := 15, iat := 0, exp := 604800, sid := some 2 }

theorem rotated_aliceExchanged : aliceExchanged.RotatedTo aliceRefresh aliceNextPair := by
  have paired : ((bothRegistered.exchange demo (refreshWith aliceRefresh)).reply.toOption.bind fun
      | .refreshed _ pair => some pair
      | _ => none) = some aliceNextPair := by decide +kernel
  refine .once List.mem_cons_self ⟨rfl, rfl, ?_⟩
  cases replied : (bothRegistered.exchange demo (refreshWith aliceRefresh)).reply with
  | error => simp [replied, Except.toOption] at paired
  | ok reply =>
    cases reply with
    | refreshed csrf pair =>
      obtain rfl : pair = aliceNextPair := by simpa [replied, Except.toOption] using paired
      exact ⟨csrf, rfl⟩
    | login | page => simp [replied, Except.toOption] at paired

/-- All tokens are bound, Alice's second pair inherits from the first, and a logout with it leaves
Bob's session 9 alone. -/
theorem tokens_of_alice_bound :
    (∀ claims ∈ aliceExchanged.issued, claims.type ≠ .preAuth →
        claims.BoundIn aliceExchanged.db.sessions) ∧
      aliceNextPair.Inherits aliceRefresh ∧
      ∃ row, row.userId = 8 ∧ aliceExchanged.db.sessions.find 9 = some row ∧
        (aliceExchanged.afterRequest demo (logoutWith aliceNextPair.refresh)).db.sessions.find 9 =
          some row := by
  have reachable : (service demo).Reachable aliceExchanged :=
    reachable_bothRegistered.step (World.step_next (by decide +kernel))
  obtain ⟨bound, inherits, isolated⟩ := tokens_sessions_owners_bound reachable
  have stored : (aliceExchanged.db.sessions.find 9).any (·.userId = 8) := by decide +kernel
  obtain ⟨row, found, owner⟩ := (Option.any_eq_true _ _).mp stored
  have isBob : row.userId = 8 := of_decide_eq_true owner
  have acts : (logoutWith aliceNextPair.refresh).actor = some 1 := rfl
  have foreign : (logoutWith aliceNextPair.refresh).actor ≠ some row.userId := by simp [acts, isBob]
  have kept := (isolated (logoutWith aliceNextPair.refresh) (by decide +kernel)).1 9 row found foreign
  exact ⟨bound, inherits _ _ rotated_aliceExchanged, row, isBob, found, kept⟩

end

end EnterpriseAuth
