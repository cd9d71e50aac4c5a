import EnterpriseAuth.Guarantees.BrowserRefreshes
import EnterpriseAuth.Guarantees.CrossSiteRequests

/-!
# Which requests take the cookies along, and which answers take them away

`COOKIE_SAMESITE` decides both.  Unless it is `none`, a page of another site cannot use the cookies but
for a navigation, so no route that goes by them does anything for it.  With `none` a browser ignores
`clear_auth_cookies`, whose headers are not `Secure`, and keeps the cookies after a logout.
-/

namespace EnterpriseAuth

open Effects Program

variable {T : Type} {env : Environment T} [CommRing T] [LinearOrder T] [FloorRing T]

/-! ## Requests without cookies -/

/-- The routes that authenticate by the auth cookies. -/
def Route.byCookies : Route → Bool
  | .refresh | .logout | .withAccess _ => true
  | .login _ | .openTo _ => false

/-- None of the auth cookies has come along. -/
structure HttpRequest.Bare (request : HttpRequest) : Prop where
  access : request.accessToken = none
  refresh : request.refreshToken = none
  csrf : request.csrfCookie = none

theorem HttpRequest.lacksCsrf_of_none {request : HttpRequest} (csrf : request.csrfCookie = none) :
    request.LacksCsrf := by
  unfold HttpRequest.LacksCsrf
  rw [csrf]
  exact em _

omit [FloorRing T] in
theorem getAuthContext_bare {request : HttpRequest} (bare : request.Bare) (server : Server T) :
    ∃ error, (getAuthContext env request).run handle server = (.error error, server) := by
  have outcome := run_getAuthContext env server request
  cases ran : (getAuthContext env request).run handle server with
  | mk result final =>
    rw [ran] at outcome
    cases outcome with
    | refused error => exact ⟨error, rfl⟩
    | sessionless presented => simp [bare.access] at presented
    | rejected presented => simp [bare.access] at presented
    | validated presented => simp [bare.access] at presented

/-- A route that goes by the cookies does nothing without them. -/
theorem dispatch_bare {arrival : Arrival} (byCookies : arrival.route.byCookies = true)
    (bare : arrival.http.Bare) (server : Server T) :
    ∃ error, (dispatch env arrival).run handle server = (.error error, server) := by
  obtain ⟨http, route, registry⟩ := arrival
  have unchecked (rest : Unit → App T (Page T)) :
      ∃ error, (verifyCsrf http >>= rest).run handle server = (.error error, server) :=
    run_verifyCsrf_first (HttpRequest.lacksCsrf_of_none bare.csrf) rest server
  cases route with
  | login | openTo => cases byCookies
  | refresh =>
    refine ⟨.auth "Missing refresh token.", ?_⟩
    simp only [dispatch, refresh, show http.refreshToken = none from bare.refresh, run_throw]
  | logout =>
    obtain ⟨error, ran⟩ : ∃ error, (logout env http).run handle server = (.error error, server) :=
      unchecked _
    exact ⟨error, by simp only [dispatch, run_map, ran]⟩
  | withAccess route =>
    obtain ⟨error, ran⟩ : ∃ error, (serveProtected env registry http route).run handle server =
        (.error error, server) := by
      unfold serveProtected
      cases route.csrfFirst with
      | true => exact unchecked _
      | false =>
        obtain ⟨error, ran⟩ : ∃ error, (getAuthContext env http).run handle server =
            (.error error, server) := getAuthContext_bare bare server
        refine ⟨error, ?_⟩
        simp only [Bool.false_eq_true, if_false, run_bind, ran]
    exact ⟨error, by simp only [dispatch, run_map, ran]⟩

variable {world : World T} {arrival : Arrival}

/-- The service answers such a request with an error, and has saved nothing. -/
theorem exchange_bare (byCookies : arrival.route.byCookies = true) (bare : arrival.http.Bare) :
    (∃ error, (world.exchange env arrival).reply = .error error) ∧
      world.server.Unsaved (world.exchange env arrival).after := by
  have exchanged := exchanged env world arrival
  generalize (world.exchange env arrival).reply = result at exchanged ⊢
  generalize (world.exchange env arrival).after = after at exchanged ⊢
  cases exchanged with
  | refused ran =>
    have aside : Aside .reads world.server _ := Within.of_exact .reads ran
    exact ⟨⟨_, rfl⟩, aside.unsaved⟩
  | @failed limited final error passes ran =>
    obtain ⟨raised, refused⟩ := dispatch_bare byCookies bare limited
    cases ran.symm.trans refused
    exact ⟨⟨_, rfl⟩, passes.aside.unsaved⟩
  | @answered limited final reply passes ran =>
    obtain ⟨raised, refused⟩ := dispatch_bare byCookies bare limited
    cases ran.symm.trans refused

namespace CookieBrowsing

variable {ι : Type} [DecidableEq ι] {cookies : CookieSettings} {state : CookieBrowsing ι T} {sender : ι}
  {request : BrowserRequest}

/-! ## Requests of other sites -/

/-- The request is one that a page of another site causes, and `COOKIE_SAMESITE` keeps the cookies from
it.  Under `lax` they go along with a navigation by `GET`. -/
structure KeptApart (cookies : CookieSettings) (request : BrowserRequest) : Prop where
  crossSite : request.fromSite = false
  sameSite : cookies.cookieSameSite ≠ .none
  noNavigation : cookies.cookieSameSite = .lax → (request.navigates && request.route.isGet) = false

omit [DecidableEq ι] [FloorRing T] in
/-- No cookie of a settled browser goes along with such a request. -/
theorem bare_of_keptApart (settled : state.Settled env cookies) (apart : KeptApart cookies request) :
    (state.arrival cookies sender request).http.Bare := by
  obtain ⟨crossSite, sameSite, noNavigation⟩ := apart
  have stays : ∀ cookie ∈ (state.jar sender).rows,
      cookie.travels state.world.clock (request.fetch cookies) = false := by
    intro cookie member
    obtain ⟨-, kind, -⟩ := (settled.stems sender).attributes member
    cases site : cookies.cookieSameSite with
    | none => exact absurd site sameSite
    | strict => simp [Cookie.travels, kind, site, BrowserRequest.fetch, crossSite]
    | lax =>
      have noGet := noNavigation site
      simp [Cookie.travels, kind, site, BrowserRequest.fetch, crossSite, noGet]
  have unread (name : String) :
      (state.jar sender).read state.world.clock (request.fetch cookies) name = none := by
    by_contra found
    obtain ⟨value, isRead⟩ := Option.ne_none_iff_exists'.mp found
    obtain ⟨cookie, member, travels, -⟩ := CookieJar.mem_of_read isRead
    rw [stays cookie member] at travels
    cases travels
  constructor <;> simp [arrival, BrowserRequest.arrival, unread]

/-- What another site makes a browser send is refused by every route that goes by the cookies.  It
changes no row, puts nothing on the blacklist and leaves the browser as it was. -/
theorem cross_site_refused (reachable : (cookieBrowsers ι env cookies).Reachable state)
    (apart : KeptApart cookies request) (byCookies : request.route.byCookies = true) :
    (∃ error, (state.world.exchange env (state.arrival cookies sender request)).reply =
      .error error) ∧
    state.world.server.Unsaved
      (state.world.exchange env (state.arrival cookies sender request)).after ∧
    (state.afterRequest env cookies sender request).jar = state.jar := by
  obtain ⟨-, settled⟩ := settled_of_reachable reachable
  have bare : (state.arrival cookies sender request).http.Bare := bare_of_keptApart settled apart
  obtain ⟨⟨error, answered⟩, unsaved⟩ :
      (∃ error, (state.world.exchange env (state.arrival cookies sender request)).reply =
        .error error) ∧ state.world.server.Unsaved
          (state.world.exchange env (state.arrival cookies sender request)).after :=
    exchange_bare byCookies bare
  refine ⟨⟨error, answered⟩, unsaved, ?_⟩
  simp only [afterRequest, answered, BrowserRequest.received, Function.update_eq_self]

/-! ## Logouts -/

/-- Another site asks Alice's browser to sign her out of all devices. -/
theorem alice_kept_apart :
    (∃ error, ((registered {}).world.exchange demo ((registered {}).arrival {} ()
      { route := .withAccess .logoutAll, fromSite := false })).reply = .error error) ∧
    (registered {}).world.server.Unsaved ((registered {}).world.exchange demo
      ((registered {}).arrival {} ()
        { route := .withAccess .logoutAll, fromSite := false })).after ∧
    ((registered {}).afterRequest demo {} ()
      { route := .withAccess .logoutAll, fromSite := false }).jar = (registered {}).jar :=
  cross_site_refused (reachable_registered {}) ⟨rfl, by decide, fun _ => rfl⟩ rfl

/-- Alice logs out. -/
def leave : BrowserRequest where
  route := .logout
  headers := [("x-csrf-token", "url-safe-token-5")]

end CookieBrowsing

end EnterpriseAuth
