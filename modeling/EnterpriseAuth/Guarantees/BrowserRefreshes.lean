import EnterpriseAuth.Guarantees.BrowserSessions

/-!
# Refreshes of browsers

What `_handle_refresh_replay` is for: a refresh token that comes back after it was replaced was taken
by somebody else.  A browser by itself never sets this off.  Its refreshes end no session, and each of
them leaves it with the token for the next one.
-/

namespace EnterpriseAuth

open Effects Program SessionService

variable {T : Type} {env : Environment T}

/-! ## Sessions that stay active -/

/-- The replay of a token whose session has ended leaves the sessions as they are. -/
theorem find_afterReplay_inactive [CommRing T] {start : Server T} {claims : Claims} {sid : Uuid}
    {row : Session T}
    (same : start.committed = start.working)
    (inactive : ∀ stored, claims.sid.bind start.working.sessions.find = some stored →
      stored.isActive = false)
    (found : start.working.sessions.find sid = some row) :
    (start.afterReplay env claims).committed.sessions.find sid = some row := by
  obtain left | ⟨stored, session, held, -⟩ := afterReplay_cases env start claims
  · rw [left, same]
    exact found
  · have ended := inactive stored (by rw [session, Option.bind_some, held.1])
    rw [held.2] at ended
    cases ended

section
variable [CommRing T] [LinearOrder T] [FloorRing T] {world : World T} {arrival : Arrival}

/-- A refresh whose token is the newest of its session, or belongs to an ended one, ends no session. -/
theorem refresh_keeps_active (reachable : (service env).Reachable world)
    (routed : arrival.route = .refresh)
    (newest : ∀ claims, arrival.http.refreshToken = some (.signed claims) → claims.type = .refresh →
      ∀ sid row, claims.sid = some sid → world.db.sessions.find sid = some row →
        row.isActive = true → row.refreshTokenId = claims.jti)
    {sid : Uuid} {row : Session T} (found : world.db.sessions.find sid = some row)
    (active : row.isActive = true) :
    ∃ later, (world.afterRequest env arrival).db.sessions.find sid = some later ∧
      later.isActive = true := by
  have served := served env world arrival
  change ∃ later, (world.exchange env arrival).after.committed.sessions.find sid = some later ∧ _
  generalize (world.exchange env arrival).reply = result at served
  generalize (world.exchange env arrival).after = after at served ⊢
  cases served with
  | refused aside =>
    rw [aside.committed]
    exact ⟨row, found, active⟩
  | failed _ other => exact absurd routed other
  | answered _ other => exact absurd routed other
  | refreshFailed passes _ outcome =>
    obtain ⟨settled, working, -⟩ := passes.start
    have kept : ∀ {server : Server T}, server.committed = world.db →
        ∃ later, server.committed.sessions.find sid = some later ∧ later.isActive = true := by
      intro server committed
      rw [committed]
      exact ⟨row, found, active⟩
    cases outcome with
    | refused => exact kept (settled.trans working)
    | unbound => exact kept ((revokeToken_committed _ _).trans (settled.trans working))
    | @replayed claims shown live listed =>
      -- no active session points at a token of the blacklist
      have inactive (stored : Session T)
          (isStored : claims.sid.bind world.db.sessions.find = some stored) :
          stored.isActive = false := by
        obtain ⟨named, session, foundStored⟩ := Option.bind_eq_some_iff.mp isStored
        by_contra stillActive
        rw [Bool.not_eq_false] at stillActive
        have points := newest claims shown live.isRefresh named stored session foundStored stillActive
        refine current_unlisted (tokensCurrent_of_reachable reachable) foundStored stillActive ?_
        rw [points]
        exact (passes.aside.blacklisted claims.jti).mp listed
      rw [← working] at found inactive
      exact ⟨row, find_afterReplay_inactive settled inactive found, active⟩
  | @refreshAnswered limited _ _ passes _ outcome =>
    obtain ⟨-, working, -⟩ := passes.start
    rw [← working] at found
    cases outcome with
    | @rebound claims named =>
      have stored : (limited.followed env claims named).commit.committed.sessions.find sid = _ :=
        find_followed env limited claims named sid
      rw [stored, found]
      split
      · exact ⟨_, rfl, active⟩
      · exact ⟨row, rfl, active⟩
    | @sessionless claims =>
      have stored : ((limited.rotated claims).drawn 1).commit.committed.sessions.find sid = some row :=
        (congrArg (fun db => db.sessions.find sid) (revokeToken_working limited claims)).trans found
      exact ⟨row, stored, active⟩

end

/-! ## Browsers -/

namespace CookieBrowsing

variable {ι : Type} [DecidableEq ι] [CommRing T] [LinearOrder T] [FloorRing T]
  {cookies : CookieSettings} {state : CookieBrowsing ι T} {sender : ι} {request : BrowserRequest}

/-- A browser that refreshes ends no session, whatever it keeps and whatever the others have done. -/
theorem refresh_ends_no_session (reachable : (cookieBrowsers ι env cookies).Reachable state)
    (routed : request.route = .refresh) {sid : Uuid} {row : Session T}
    (found : state.world.db.sessions.find sid = some row) (active : row.isActive = true) :
    ∃ later, (state.afterRequest env cookies sender request).world.db.sessions.find sid = some later ∧
      later.isActive = true := by
  have settled := (settled_of_reachable reachable).2
  have keeps (claims : Claims)
      (sent : (state.arrival cookies sender request).http.refreshToken = some (.signed claims)) :
      (state.jar sender).Keeps claims := by
    obtain ⟨cookie, member, -, value⟩ := Jar.sent_refresh sent
    exact ⟨cookie, member, value⟩
  exact refresh_keeps_active (service_of_reachable reachable) routed
    (fun claims sent isRefresh sid row session found active =>
      settled.newest sender claims sid row (keeps claims sent) isRefresh session found active)
    found active

/-! ## Renewal -/

section
variable [IsStrictOrderedRing T]

omit [DecidableEq ι] [FloorRing T] in
/-- A jar that receives a pair sends its refresh token where the last one went. -/
theorem read_renewed {jar : Jar T} {handed : Claims → Prop}
    (stems : jar.Stems env cookies handed) {cookie : Cookie Token T} (member : cookie ∈ jar.rows)
    {now : T} {fetch : Fetch} (travels : cookie.travels now fetch = true)
    {claims : Claims} (value : cookie.value = .signed claims)
    (isRefresh : claims.type = .refresh) {pair : TokenPair} {csrf : String}
    (remembers : pair.refresh.rememberMe = claims.rememberMe) :
    (jar.receiveAll now fetch (cookies.setAuthCookies env pair csrf)).read now fetch
      cookies.refreshCookieName = some (.signed pair.refresh) := by
  have storable := stems.storable member travels
  obtain ⟨path, lifetime⟩ := stems.refresh_cookie isRefresh member value
  obtain ⟨secure, sameSite, -⟩ := stems.attributes member
  let later := jar.receiveAll now fetch (cookies.setAuthCookies env pair csrf)
  let renewed : Cookie Token T := CookieJar.stored now (cookies.authCookie cookies.refreshCookieName
    (.signed pair.refresh) (TokenService.refreshTtlDays env pair.refresh.rememberMe * 86400)
    cookies.refreshPath true)
  -- the browser that sent the old cookie stores the new one, which has the same attributes
  have isStored : renewed ∈ later.rows := by
    refine (stems.mem_received storable).mpr ⟨_, ?_, remembers ▸ lifetime, rfl⟩
    exact CookieSettings.mem_setAuthCookies.mpr (.inr (.inl rfl))
  -- one path for the name, so the new cookie has replaced the old one
  have once : ∀ other ∈ later.rows, other.name = cookies.refreshCookieName →
      other.path = cookies.refreshPath := by
    intro other isOther named
    obtain ⟨setCookie, isSet, -, rfl⟩ := (stems.mem_received storable).mp isOther
    have key : setCookie.key ∈ cookies.keys := by
      rw [← CookieSettings.keys_setAuthCookies]
      exact List.mem_map_of_mem isSet
    have refreshKey : (cookies.refreshCookieName, cookies.refreshPath) ∈ cookies.keys := by
      simp [CookieSettings.keys]
    exact CookieSettings.path_of_name key refreshKey named
  have lasts : now < renewed.expires := by
    have positive : 0 < TokenService.refreshTtlDays env pair.refresh.rememberMe * 86400 := by
      rw [remembers]
      omega
    exact lt_add_of_pos_right now (Nat.cast_pos.mpr positive)
  have goesToo : renewed.travels now fetch = true :=
    Cookie.travels_like travels path.symm secure.symm sameSite.symm lasts
  have found : later.find (cookies.refreshCookieName, cookies.refreshPath) = some renewed :=
    Table.find_of_mem isStored
  change later.read now fetch cookies.refreshCookieName = _
  rw [CookieJar.read_eq_find once, found, Option.filter_some, if_pos goesToo]
  rfl

/-- A browser that uses the refresh token of an active session in time gets the next one, and keeps
it. -/
theorem session_renewed (reachable : (cookieBrowsers ι env cookies).Reachable state)
    (routed : request.route = .refresh) {claims : Claims} {sid : Uuid} {row : Session T}
    (sent : (state.arrival cookies sender request).http.refreshToken = some (.signed claims))
    (live : claims.LiveRefresh state.world.clock) (session : claims.sid = some sid)
    (found : state.world.db.sessions.find sid = some row) (active : row.isActive = true)
    (passes : state.world.LetsPass env (state.arrival cookies sender request)) :
    ∃ csrf pair later,
      (state.world.exchange env (state.arrival cookies sender request)).reply =
        .ok (.refreshed csrf pair) ∧
      (state.afterRequest env cookies sender request).world.db.sessions.find sid = some later ∧
      later.isActive = true ∧ later.refreshTokenId = pair.refresh.jti ∧
      ((state.afterRequest env cookies sender request).arrival cookies sender request).http.refreshToken =
        some (.signed pair.refresh) := by
  have settled := (settled_of_reachable reachable).2
  have served := service_of_reachable reachable
  let arrival := state.arrival cookies sender request
  let limited := state.world.limited env arrival
  let pair := limited.nextPair env claims
  let fetch := request.fetch cookies
  obtain ⟨cookie, member, travels, value⟩ := Jar.sent_refresh sent
  have stems := settled.stems sender
  have points := settled.newest sender claims sid row ⟨cookie, member, value⟩ live.isRefresh session
    found active
  have issued := (issued_of_keeps settled (settled_of_reachable reachable).1
    ⟨cookie, member, value⟩).1
  have isRefresh : arrival.route = .refresh := routed
  obtain ⟨csrf, answered, left⟩ :=
    exchange_of_current served isRefresh sent issued live session found active points passes
  obtain ⟨-, working, clock, -⟩ := (World.passes_iff.mpr ⟨passes, rfl⟩).start
  refine ⟨csrf, pair, rebound limited.clock (limited.draws + 1) row, answered, ?_, active, rfl, ?_⟩
  · have stored : (state.world.exchange env arrival).after.committed.sessions.find sid = _ :=
      (congrArg (fun server => server.committed.sessions.find sid) left).trans
        (find_commit_followed (working ▸ found))
    exact stored
  -- the answer arrives at the instant of the request, so the new cookie is alive
  · have clockAfter : (state.world.exchange env arrival).after.clock = state.world.clock := by
      rw [left]
      exact (followed_clock env limited claims sid).trans clock
    have received : request.received cookies env (state.jar sender) state.world.clock
        (state.world.exchange env arrival).reply =
          (state.jar sender).receiveAll state.world.clock fetch
            (cookies.setAuthCookies env pair csrf) := by
      rw [answered]
      rfl
    have renewed : ((state.jar sender).receiveAll state.world.clock fetch
        (cookies.setAuthCookies env pair csrf)).read state.world.clock fetch
          cookies.refreshCookieName = some (.signed pair.refresh) :=
      read_renewed stems member travels value live.isRefresh rfl
    rw [← received] at renewed
    simp only [CookieBrowsing.arrival, CookieBrowsing.afterRequest, Function.update_self,
      BrowserRequest.arrival, Browsing.afterRequest, World.afterRequest]
    exact clockAfter.symm ▸ renewed

end

/-! ## A visitor -/

/-- One browser, which has not been used yet. -/
def visitor : CookieBrowsing Unit ℚ where
  world := World.new
  visits := []
  jar _ := ∅

/-- Alice registers in her browser. -/
def registered (cookies : CookieSettings) : CookieBrowsing Unit ℚ :=
  visitor.afterRequest demo cookies () { route := registerAlice.route }

theorem reachable_registered (cookies : CookieSettings) :
    (cookieBrowsers Unit demo cookies).Reachable (registered cookies) := by
  have starts : visitor.Starts := ⟨World.new_starts, rfl, fun _ => rfl⟩
  refine (System.Reachable.start starts).step (.request ?_)
  rintro token ⟨⟩

theorem registered_keeps_session :
    ∃ row, (registered {}).world.db.sessions.find 2 = some row ∧ row.isActive = true := by
  have active : ((registered {}).world.db.sessions.find 2).any fun row => row.isActive := by decide +kernel
  obtain ⟨row, found, isActive⟩ := (Option.any_eq_true _ _).mp active
  exact ⟨row, found, isActive⟩

theorem alice_stays_active :
    ∃ later, ((registered {}).afterRequest demo {} () { route := .refresh }).world.db.sessions.find 2 =
      some later ∧ later.isActive = true := by
  obtain ⟨row, found, active⟩ := registered_keeps_session
  exact refresh_ends_no_session (reachable_registered {}) rfl found active

/-- Alice's browser gets her next pair, and sends its refresh token the next time. -/
theorem alice_renews :
    ∃ csrf pair later,
      ((registered {}).world.exchange demo ((registered {}).arrival {} () { route := .refresh })).reply =
        .ok (.refreshed csrf pair) ∧
      ((registered {}).afterRequest demo {} () { route := .refresh }).world.db.sessions.find 2 =
        some later ∧
      later.isActive = true ∧ later.refreshTokenId = pair.refresh.jti ∧
      (((registered {}).afterRequest demo {} () { route := .refresh }).arrival {} ()
        { route := .refresh }).http.refreshToken = some (.signed pair.refresh) := by
  obtain ⟨row, found, active⟩ := registered_keeps_session
  have sent : ((registered {}).arrival {} () { route := .refresh }).http.refreshToken =
      some (.signed aliceRefresh) := by decide +kernel
  have live : aliceRefresh.LiveRefresh (registered {}).world.clock := ⟨rfl, by decide +kernel⟩
  exact session_renewed (reachable_registered {}) rfl sent live rfl found active
    (by unfold World.LetsPass; decide +kernel)

end CookieBrowsing

end EnterpriseAuth
