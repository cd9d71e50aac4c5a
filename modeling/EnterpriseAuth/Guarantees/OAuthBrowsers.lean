import EnterpriseAuth.Api.Browsers
import EnterpriseAuth.Guarantees.OAuthStates
import EnterpriseAuth.Guarantees.Rollback

/-!
# Browsers and the states of authorizations

Several browsers use the service, each with its own cookies.  A callback reads no cookie, so that a
state works in whatever browser presents it.  The guarantee that a flow ends in the browser that
started it therefore holds in the runs in which no browser presents a live state of another one.
-/

namespace EnterpriseAuth

open Effects Program OAuthService

variable {ι T : Type}

/-! ## Flows of browsers -/

/-- One of the browser's requests has started a flow with the state. -/
def StartedBy (visits : List (Visit ι T)) (browser : ι) (state : String) (flow : Flow) : Prop :=
  ∃ visit ∈ visits, visit.browser = browser ∧ visit.exchange.flow = some flow ∧
    flow.url.state = state

section
variable [CommRing T] [LinearOrder T] (env : Environment T)

/-- The request comes from a browser in which the user is logged in. -/
def Server.AuthenticatesAs (server : Server T) (request : HttpRequest) (userId : Uuid) : Prop :=
  ∃ claims, request.accessToken = some (.signed claims) ∧ claims.sub = userId ∧
    server.Admits env claims

/-- What a callback that is answered shows about the browser that sent it. -/
structure Visit.Bound (visit : Visit ι T) (earlier : List (Visit ι T)) (state : String) : Prop where
  /-- outside a login, an account is written for a user who is logged in -/
  link : ∀ key account,
    (∀ user csrf pair, visit.exchange.reply ≠ .ok (.login (.auth user csrf pair))) →
    visit.exchange.before.committed.oauthAccounts.find key ≠ some account →
    visit.exchange.after.committed.oauthAccounts.find key = some account →
    visit.exchange.before.AuthenticatesAs env visit.exchange.arrival.http account.userId
  /-- a login ends where it started -/
  login : ∀ user csrf pair, visit.exchange.reply = .ok (.login (.auth user csrf pair)) →
    ∃ flow, StartedBy earlier visit.browser state flow ∧ flow.mode = .login
  /-- the state of another browser is refused -/
  delivered : ∀ other flow, other ≠ visit.browser → StartedBy earlier other state flow →
    ∃ error, visit.exchange.reply = .error error

/-- Every callback so far was bound to its browser. -/
def BoundToBrowsers : List (Visit ι T) → Prop
  | [] => True
  | visit :: earlier =>
    (∀ state, visit.exchange.arrival.route.presentedState = some state →
      visit.Bound env earlier state) ∧
      BoundToBrowsers earlier

variable [FloorRing T]

/-- A callback that gets through presents a live state only in the browser that started its flow,
and that of a link only while the user who started it is logged in there. -/
def KeepsStates (browsing : Browsing ι T) : BrowserEvent ι T → Prop
  | .request browser arrival => ∀ provider code state payload,
      arrival.route = .login (.oauthCallback provider code state) →
      browsing.world.LetsPass env arrival →
      browsing.world.redis.lookup browsing.world.clock (.oauthState state) = some (.oauth payload) →
      payload.provider = provider →
      ∀ other flow, StartedBy browsing.visits other state flow → other = browser ∧
        ∀ userId, flow.linkUserId = some userId →
          browsing.world.server.AuthenticatesAs env arrival.http userId
  | .tick _ | .setUserActive _ _ => True

/-! ## An answered callback -/

variable {env} {world : World T} {arrival : Arrival}

theorem finalizeLogin_auth {request : HttpRequest} {user : User T} {rememberMe : Bool}
    {server final : Server T} {reply : LoginReply T}
    (ran : (finalizeLogin env request user rememberMe).run handle server = (.ok reply, final)) :
    ∃ user csrf pair, reply = .auth user csrf pair := by
  let anyone : Uuid → Prop := fun _ => True
  have anyGate : anyone user.id := trivial
  have entry : Follows env (.creating server anyone) server server := .refl server
  obtain ⟨-, read, csrf, pair, same, -⟩ :=
    (triple_finalizeLogin anyGate request rememberMe).returned entry ran
  exact ⟨read, csrf, pair, same⟩

/-- What is known of a callback that was answered. -/
structure CallbackAnswer (env : Environment T) (world : World T) (arrival : Arrival)
    (provider code state : String) (reply : Reply T) (payload : OAuthState) (info : OAuthUserInfo) :
    Prop where
  passes : world.LetsPass env arrival
  live : world.redis.lookup world.clock (.oauthState state) = some (.oauth payload)
  sameProvider : payload.provider = provider
  outcome : ∃ start user middle, start.working = world.db ∧
    ProfileOutcome env start provider payload info (.ok (user, payload.mode)) middle ∧
    (payload.mode = .link →
      (world.exchange env arrival).after.committed.oauthAccounts = middle.working.oauthAccounts)
  link : (∀ user csrf pair, reply ≠ .login (.auth user csrf pair)) → payload.mode = .link
  login : ∀ user csrf pair, reply = .login (.auth user csrf pair) → payload.mode = .login

theorem callback_answered {provider code state : String} {reply : Reply T}
    (routed : arrival.route = .login (.oauthCallback provider code state))
    (answered : (world.exchange env arrival).reply = .ok reply) :
    ∃ payload info, CallbackAnswer env world arrival provider code state reply payload info := by
  obtain ⟨limited, final, passes, ran, left⟩ := exchange_answered answered
  simp only [dispatch, routed, serveLogin] at ran
  obtain ⟨loginReply, callback, rfl⟩ := run_map_ok ran
  obtain ⟨⟨user, mode⟩, middle, handled, finished⟩ := run_bind_ok callback
  obtain ⟨payload, info, input, outcome⟩ :=
    (triple_handleCallback env limited arrival.registry provider code state).returned rfl handled
  -- the mode that the route branches on is the one stored with the state
  have sameMode : mode = payload.mode := by cases outcome <;> rfl
  subst sameMode
  have clock : limited.clock = world.clock := passes.aside.clock
  have live := input.stored
  rw [ExpiringStore.lookup_congr (states_spared passes state), clock] at live
  rw [run_ite] at finished
  refine ⟨payload, info, {
    passes := (World.passes_iff.mp passes).1
    live
    sameProvider := input.sameProvider
    outcome := ⟨limited.popped state, user, middle, passes.aside.working, outcome, fun link => ?_⟩
    link := ?_
    login := ?_ }⟩
  · rw [if_pos link] at finished
    cases finished
    rw [left]
    rfl
  · intro other
    by_contra login
    rw [if_neg login] at finished
    obtain ⟨read, csrf, pair, rfl⟩ := finalizeLogin_auth finished
    exact other read csrf pair rfl
  · intro read csrf pair same
    by_contra other
    have link : payload.mode = .link := by
      cases mode : payload.mode with
      | login => exact absurd mode other
      | link => rfl
    rw [if_pos link] at finished
    cases finished
    cases same

/-! ## Runs -/

variable {browsing : Browsing ι T} {browser : ι}

/-- The callback of a state that its own browser presents: what it changes, it changes for that
browser. -/
theorem bound_afterRequest (minted : browsing.world.StatesMinted env)
    (recorded : browsing.visits.map (·.exchange) = browsing.world.history)
    (keeps : KeepsStates env browsing (.request browser arrival)) {state : String}
    (presented : arrival.route.presentedState = some state) :
    Visit.Bound env { browser, exchange := browsing.world.exchange env arrival } browsing.visits
      state := by
  obtain ⟨provider, code, routed⟩ := callback_of_presentedState presented
  -- the flow of the payload was started by the browser that presents it now
  have own {reply : Reply T} (answered : (browsing.world.exchange env arrival).reply = .ok reply) :
      ∃ payload info flow, CallbackAnswer env browsing.world arrival provider code state reply payload
          info ∧ StartedBy browsing.visits browser state flow ∧ payload.mode = flow.mode ∧
        payload.linkUserId = flow.linkUserId ∧ (flow.mode = .link → flow.linkUserId.isSome) ∧
        ∀ other flow, StartedBy browsing.visits other state flow → other = browser ∧
          ∀ userId, flow.linkUserId = some userId →
            browsing.world.server.AuthenticatesAs env arrival.http userId := by
    obtain ⟨payload, info, answer⟩ := callback_answered routed answered
    have here := keeps provider code state payload routed answer.passes answer.live
      answer.sameProvider
    obtain ⟨entry, kept, isPayload, -⟩ := ExpiringStore.lookup_entry answer.live
    obtain ⟨authorization, member, flow, stored, started, carries, storedAs, rfl⟩ :=
      minted state entry kept
    obtain rfl : stored = payload := by simpa using isPayload
    rw [← recorded] at member
    obtain ⟨visit, inVisits, rfl⟩ := List.mem_map.mp member
    have startedBy : StartedBy browsing.visits visit.browser state flow :=
      ⟨visit, inVisits, rfl, started, carries⟩
    obtain ⟨same, -⟩ := here _ flow startedBy
    exact ⟨stored, info, flow, answer, same ▸ startedBy, storedAs.mode, storedAs.linkUserId,
      storedAs.linking, here⟩
  constructor
  · intro key account notLogin absent found
    change browsing.world.db.oauthAccounts.find key ≠ some account at absent
    change (browsing.world.exchange env arrival).after.committed.oauthAccounts.find key = some account
      at found
    cases answered : (browsing.world.exchange env arrival).reply with
    | error error =>
      obtain ⟨sessions, same⟩ := sessions_of_error answered
      rw [same] at found
      exact absurd found absent
    | ok reply =>
      obtain ⟨payload, info, flow, answer, startedBy, mode, linkUserId, linking, here⟩ := own answered
      have link : payload.mode = .link :=
        answer.link fun user csrf pair same =>
          notLogin user csrf pair (answered.trans (congrArg _ same))
      have linked : payload.linkUserId.isSome := linkUserId ▸ linking (mode ▸ link)
      obtain ⟨start, user, middle, same, outcome, left⟩ := answer.outcome
      rw [left link] at found
      cases outcome with
      | linked => exact absurd (same ▸ found) absent
      | created _ notLinking => exact absurd ⟨link, linked⟩ notLinking
      | joined unlinked claimant inserted =>
        obtain ⟨-, -, accounts, added, rfl⟩ := Database.insertOAuthAccount_ok inserted
        rw [Table.find_insert added, same] at found
        split at found
        next =>
          cases found
          cases claimant with
          | linking _ started => exact (here browser flow startedBy).2 user.id (linkUserId ▸ started)
          | verified notLinking => exact absurd ⟨link, linked⟩ notLinking
        next => exact absurd found absent
  · intro user csrf pair answered
    obtain ⟨payload, info, flow, answer, startedBy, mode, -⟩ := own answered
    exact ⟨flow, startedBy, mode ▸ answer.login user csrf pair rfl⟩
  · intro other flow different startedBy
    cases answered : (browsing.world.exchange env arrival).reply with
    | error error => exact ⟨error, rfl⟩
    | ok reply =>
      obtain ⟨-, -, -, -, -, -, -, -, here⟩ := own answered
      exact absurd (here other flow startedBy).1 different

/-- In the runs in which no browser presents a live state of another one, every callback is bound to
the browser that sent it. -/
theorem callbacks_bound_to_browsers
    (reachable : ((browsers env ι).guarded (KeepsStates env)).Reachable browsing) :
    BoundToBrowsers env browsing.visits := by
  refine System.Reachable.invariant (fun browsing => BoundToBrowsers env browsing.visits) reachable
    ?_ ?_
  · rintro first ⟨-, noVisits⟩
    rw [noVisits]
    trivial
  · rintro before event after earlier bound ⟨keeps, step⟩
    obtain ⟨reached, recorded, -⟩ := browsers_service earlier.of_guarded
    cases step with
    | tick | setUserActive => exact bound
    | request =>
      refine ⟨fun state presented => ?_, bound⟩
      exact bound_afterRequest (statesMinted_of_reachable reached) recorded keeps presented

end

/-! ## Two browsers -/

def Browsing.new : Browsing Bool ℚ where
  world := World.new
  visits := []

/-- Both browsers start a flow. -/
def bothAuthorized : Browsing Bool ℚ :=
  (Browsing.new.afterRequest demo true (authorizeAt "google")).afterRequest demo false
    (authorizeAt "github")

theorem keepsStates_authorizeAt (browsing : Browsing Bool ℚ) (browser : Bool) (provider : String) :
    KeepsStates demo browsing (.request browser (authorizeAt provider)) := by
  intro _ _ _ _ routed
  cases routed

theorem reachable_bothAuthorized :
    ((browsers demo Bool).guarded (KeepsStates demo)).Reachable bothAuthorized := by
  have start : ((browsers demo Bool).guarded (KeepsStates demo)).Reachable Browsing.new :=
    .start ⟨World.new_starts, rfl⟩
  have authorize (browsing : Browsing Bool ℚ) (browser : Bool) (provider : String) :
      ((browsers demo Bool).guarded (KeepsStates demo)).step browsing
        (.request browser (authorizeAt provider))
        (browsing.afterRequest demo browser (authorizeAt provider)) :=
    ⟨keepsStates_authorizeAt _ _ _, browsers_step_anonymous rfl⟩
  exact (start.step (authorize _ _ _)).step (authorize _ _ _)

/-- The second browser opens the callback with the state of the first. -/
theorem state_works_in_another_browser :
    ¬ ∀ browsing, (browsers demo Bool).Reachable browsing → BoundToBrowsers demo browsing.visits := by
  intro bound
  let callback := callbackFrom "google" "mallory" "url-safe-token-0"
  have opened : (browsers demo Bool).step bothAuthorized (.request false callback)
      (bothAuthorized.afterRequest demo false callback) := browsers_step_anonymous rfl
  have handed := (bound _ (reachable_bothAuthorized.of_guarded.step opened)).1 "url-safe-token-0" rfl
  have answered : (bothAuthorized.world.exchange demo callback).reply.isOk := by decide +kernel
  have started : (bothAuthorized.visits.any fun visit => visit.browser &&
      visit.exchange.flow.any (·.url.state = "url-safe-token-0")) = true := by decide +kernel
  obtain ⟨visit, member, facts⟩ := List.any_eq_true.mp started
  rw [Bool.and_eq_true] at facts
  obtain ⟨flow, flowed, carries⟩ := (Option.any_eq_true _ _).mp facts.2
  have other : StartedBy bothAuthorized.visits true "url-safe-token-0" flow :=
    ⟨visit, member, facts.1, flowed, of_decide_eq_true carries⟩
  obtain ⟨error, refused⟩ := handed.delivered true flow (by decide) other
  obtain ⟨reply, same⟩ := exists_ok answered
  exact nomatch same.symm.trans refused

/-- The second browser opens the callback of its own flow. -/
theorem own_callback_bound : BoundToBrowsers demo
    (bothAuthorized.afterRequest demo false
      (callbackFrom "github" "bob" "url-safe-token-2")).visits := by
  let callback := callbackFrom "github" "bob" "url-safe-token-2"
  have ofSecond : (bothAuthorized.visits.all fun visit => visit.exchange.flow.all fun flow =>
      flow.url.state ≠ "url-safe-token-2" || !visit.browser && flow.linkUserId.isNone) = true := by
    decide +kernel
  have keeps : KeepsStates demo bothAuthorized (.request false callback) := by
    rintro provider code state payload routed - - - other flow ⟨visit, member, rfl, flowed, carries⟩
    cases routed
    have facts := List.all_eq_true.mp ofSecond visit member
    simp only [flowed, Option.all_some, carries, ne_eq, not_true_eq_false, decide_false, Bool.false_or,
      Bool.and_eq_true, Bool.not_eq_true', Option.isNone_iff_eq_none] at facts
    exact ⟨facts.1, by simp [facts.2]⟩
  have opened : ((browsers demo Bool).guarded (KeepsStates demo)).step bothAuthorized
      (.request false callback) (bothAuthorized.afterRequest demo false callback) :=
    ⟨keeps, browsers_step_anonymous rfl⟩
  exact callbacks_bound_to_browsers (reachable_bothAuthorized.step opened)

end EnterpriseAuth
