import EnterpriseAuth.Guarantees.Logout
import EnterpriseAuth.Guarantees.Scenario
import EnterpriseAuth.Requests.Keys
import EnterpriseAuth.Requests.OAuthCallback
import Mathlib.Data.List.DropRight
import Mathlib.Data.List.Pairwise

/-!
# States of authorizations

An authorization draws a state, stores under it what the callback will need, and returns it in the
URL of its redirect.  A callback that presents the state fetches the payload and deletes it before
it looks at it.  No other request opens these keys, so that a payload that is found belongs to the
authorization whose URL carried the state, whatever happened in between.
-/

namespace EnterpriseAuth

open Effects Program OAuthService

variable {T : Type}

/-! ## Flows -/

/-- What an authorization fixes for its callback. -/
structure Flow where
  provider : String
  url : AuthorizationUrl
  mode : OAuthMode
  linkUserId : Option Uuid
  deriving DecidableEq

/-- The user whose access token the request shows. -/
def HttpRequest.shownUser (request : HttpRequest) : Option Uuid :=
  match request.accessToken with
  | some (.signed claims) => some claims.sub
  | _ => none

/-- The flow that a request has started with the redirect that answers it. -/
def Arrival.flow (arrival : Arrival) (reply : Except AppError (Reply T)) : Option Flow :=
  match arrival.route, reply with
  | .openTo (.oauthAuthorize provider), .ok (.page (.redirect url)) =>
    some { provider, url, mode := .login, linkUserId := none }
  | .withAccess (.oauthLink provider), .ok (.page (.redirect url)) =>
    some { provider, url, mode := .link, linkUserId := arrival.http.shownUser }
  | _, _ => none

@[simp] theorem Arrival.flow_error (arrival : Arrival) (error : AppError) :
    arrival.flow (.error error : Except AppError (Reply T)) = none := by
  unfold Arrival.flow
  split <;> first | rfl | contradiction

def Exchange.flow (exchange : Exchange T) : Option Flow := exchange.arrival.flow exchange.reply

section
variable [CommRing T] [LinearOrder T] (env : Environment T)

/-- The request has presented the state to a callback: the global rate limit let it pass. -/
def Exchange.Presents (exchange : Exchange T) (state : String) : Prop :=
  exchange.arrival.route.presentedState = some state ∧
    ((rateLimitMiddleware env exchange.arrival.http).run handle exchange.before).1 = .ok ()

/-- The states are fresh: the one that a flow starts with has occurred neither in the URL of an
earlier flow nor in an earlier callback. -/
def FreshStates (history : List (Exchange T)) : Prop :=
  history.Pairwise fun later earlier => ∀ flow ∈ later.flow,
    (∀ other ∈ earlier.flow, other.url.state ≠ flow.url.state) ∧
      ¬ earlier.Presents env flow.url.state

/-- The challenge is the encoded SHA-256 digest of the verifier up to the `=` signs that pad it. -/
structure ChallengeOf (verifier challenge : String) : Prop where
  digest : ∃ padding, env.sha256Base64 verifier =
    challenge ++ String.ofList (List.replicate padding '=')
  unpadded : challenge.toList.getLast? ≠ some '='

/-- The payload that is stored under the state of a flow. -/
structure Flow.StoredAs (flow : Flow) (registry : String → Option Provider) (payload : OAuthState) :
    Prop where
  url : flow.url.provider = flow.provider
  provider : payload.provider = flow.provider
  mode : payload.mode = flow.mode
  linkUserId : payload.linkUserId = flow.linkUserId
  linking : flow.mode = .link → flow.linkUserId.isSome
  challenge : Option.Rel (ChallengeOf env) payload.codeVerifier flow.url.codeChallenge
  pkce : ∀ source, registry flow.provider = some source →
    source.usesPkce = payload.codeVerifier.isSome

/-- What `handle_callback` does with the payload of a state that it has popped. -/
def callbackWith (registry : String → Option Provider) (providerName code : String)
    (payload : OAuthState) : App T (User T × OAuthMode) := do
  let provider ← providerOr404 registry providerName
  let accessToken ← liftExcept (provider.exchangeCode code payload.codeVerifier)
  let info ← liftExcept (provider.fetchUserInfo accessToken)
  resolveProfile env providerName payload info

omit [CommRing T] [LinearOrder T] in
theorem handleCallback_eq (registry : String → Option Provider) (providerName code state : String) :
    handleCallback env registry providerName code state =
      popState state providerName >>= callbackWith env registry providerName code :=
  rfl

omit [CommRing T] [LinearOrder T] in
/-- `rstrip("=")` takes away the padding and nothing else. -/
theorem challengeOf_pkceChallenge (verifier : String) :
    ChallengeOf env verifier (pkceChallenge env verifier) := by
  let text := (env.sha256Base64 verifier).toList
  have stripped : (pkceChallenge env verifier).toList = text.rdropWhile (· = '=') := by
    simp [pkceChallenge, List.rdropWhile, text]
  constructor
  · have signs : text.rtakeWhile (· = '=') =
        List.replicate (text.rtakeWhile (· = '=')).length '=' :=
      List.eq_replicate_of_mem fun character member => by
        simpa using List.mem_rtakeWhile_imp member
    have whole : text.rdropWhile (· = '=') ++ text.rtakeWhile (· = '=') = text := by
      rw [List.rdropWhile, List.rtakeWhile, ← List.reverse_append, List.takeWhile_append_dropWhile,
        List.reverse_reverse]
    refine ⟨(text.rtakeWhile (· = '=')).length, String.toList_inj.mp ?_⟩
    rw [String.toList_append, stripped, String.toList_ofList, ← signs, whole]
  · rw [stripped]
    intro padded
    obtain ⟨nonempty, last⟩ := List.mem_getLast?_eq_getLast padded
    have sign := List.rdropWhile_last_not (fun character => decide (character = '=')) text nonempty
    simp [← last] at sign

/-! ## Single requests -/

/-- What a request does to the states of authorizations. -/
inductive StatesOutcome (arrival : Arrival) (start : Server T) :
    Except AppError (Reply T) → Server T → Prop
  | elsewhere {reply : Except AppError (Reply T)} {final : Server T}
    (unflowed : arrival.flow reply = none) (silent : arrival.route.presentedState = none)
    (same : ∀ state, final.redis (.oauthState state) = start.redis (.oauthState state)) :
    StatesOutcome arrival start reply final
  | starts {reply : Except AppError (Reply T)} {final : Server T} {flow : Flow} {payload : OAuthState}
    (flowed : arrival.flow reply = some flow) (silent : arrival.route.presentedState = none)
    (stored : flow.StoredAs env arrival.registry payload)
    (written : ∀ state, final.redis (.oauthState state) =
      if state = flow.url.state then
        some ⟨.oauth payload, some (start.clock + (env.settings.oauthStateTtlSeconds : ℕ))⟩
      else start.redis (.oauthState state)) :
    StatesOutcome arrival start reply final
  | presents {reply : Except AppError (Reply T)} {final : Server T} {state : String}
    (unflowed : arrival.flow reply = none) (presented : arrival.route.presentedState = some state)
    (gone : ∀ payload, final.redis.lookup start.clock (.oauthState state) ≠ some (.oauth payload))
    (fewer : ∀ other entry, final.redis (.oauthState other) = some entry →
      start.redis (.oauthState other) = some entry) :
    StatesOutcome arrival start reply final

def Key.IsState : Key → Prop
  | .oauthState _ => True
  | _ => False

instance (jti : Uuid) : Opens (T := T) (Command.Spares Key.IsState) (.revokedJti jti) :=
  opens_spares id
instance (sid : Uuid) : Opens (T := T) (Command.Spares Key.IsState) (.sessionRevoked sid) :=
  opens_spares id
instance (sid : Uuid) : Opens (T := T) (Command.Spares Key.IsState) (.sessionTouch sid) :=
  opens_spares id
instance (sid : Uuid) : Opens (T := T) (Command.Spares Key.IsState) (.sessionActive sid) :=
  opens_spares id
instance (key : String) : Opens (T := T) (Command.Spares Key.IsState) (.rateLimit key) :=
  opens_spares id
instance (subject : String) : Opens (T := T) (Command.Spares Key.IsState) (.lockout subject) :=
  opens_spares id
instance (subject : String) : Opens (T := T) (Command.Spares Key.IsState) (.failcount subject) :=
  opens_spares id
instance (userId : Uuid) (otp : String) :
    Opens (T := T) (Command.Spares Key.IsState) (.otpUsed userId otp) :=
  opens_spares id

variable {env} {server final : Server T}

theorem StatesOutcome.commit {arrival : Arrival} {reply : Except AppError (Reply T)}
    (outcome : StatesOutcome env arrival server reply final) :
    StatesOutcome env arrival server reply final.commit := by
  cases outcome with
  | elsewhere unflowed silent same => exact .elsewhere unflowed silent same
  | starts flowed silent stored written => exact .starts flowed silent stored written
  | presents unflowed presented gone fewer => exact .presents unflowed presented gone fewer

/-- What was done before the request leaves the states alone. -/
theorem StatesOutcome.after_limit {arrival : Arrival} {limited : Server T}
    {reply : Except AppError (Reply T)} (outcome : StatesOutcome env arrival limited reply final)
    (clock : limited.clock = server.clock)
    (same : ∀ state, limited.redis (.oauthState state) = server.redis (.oauthState state)) :
    StatesOutcome env arrival server reply final := by
  cases outcome with
  | elsewhere unflowed silent kept =>
    exact .elsewhere unflowed silent fun state => (kept state).trans (same state)
  | starts flowed silent stored written =>
    refine .starts flowed silent stored fun state => ?_
    rw [written, clock, same]
  | presents unflowed presented gone fewer =>
    refine .presents unflowed presented (clock ▸ gone) fun other entry found => ?_
    rw [← same]
    exact fewer other entry found

theorem states_spared {α : Type} {program : App T α} [Calls (Command.Spares Key.IsState) program]
    {result : Except AppError α} (ran : program.run handle server = (result, final)) (state : String) :
    final.redis (.oauthState state) = server.redis (.oauthState state) := by
  have isState : Key.IsState (.oauthState state) := trivial
  have spared := Calls.spared Key.IsState program isState server
  rwa [ran] at spared

variable (env) in
/-- An authorization is refused for a provider that is not configured, or it stores the payload of
its flow. -/
theorem run_startAuthorization (registry : String → Option Provider) (provider : String)
    (mode : OAuthMode) (linkUserId : Option Uuid) (linking : mode = .link → linkUserId.isSome)
    (server : Server T) :
    (∃ error, (startAuthorization env registry provider mode linkUserId).run handle server =
      (.error error, server)) ∨
    ∃ url payload draws,
      (Flow.mk provider url mode linkUserId).StoredAs env registry payload ∧
      (startAuthorization env registry provider mode linkUserId).run handle server =
        (.ok url, { server with
          redis := server.redis.put (.oauthState url.state)
            ⟨.oauth payload, some (server.clock + (env.settings.oauthStateTtlSeconds : ℕ))⟩
          draws }) := by
  unfold startAuthorization providerOr404
  cases configured : registry provider with
  | none => exact .inl ⟨_, rfl⟩
  | some source =>
    let state := env.tokenUrlsafe server.draws
    have known : ∀ other, registry provider = some other → source = other := by
      intro other found
      exact Option.some.inj (configured.symm.trans found)
    cases pkce : source.usesPkce with
    | false =>
      refine .inr ⟨{ provider, state, codeChallenge := none },
        { provider, codeVerifier := none, mode, linkUserId }, _,
        ⟨rfl, rfl, rfl, rfl, linking, .none, ?_⟩, by simp [pkce, state]; rfl⟩
      intro other found
      rw [← known other found, pkce]
      rfl
    | true =>
      let verifier := env.tokenUrlsafe (server.draws + 1)
      refine .inr ⟨{ provider, state, codeChallenge := some (pkceChallenge env verifier) },
        { provider, codeVerifier := some verifier, mode, linkUserId }, _,
        ⟨rfl, rfl, rfl, rfl, linking, .some (challengeOf_pkceChallenge env verifier), ?_⟩,
        by simp [pkce, state, verifier]; rfl⟩
      intro other found
      rw [← known other found, pkce]
      rfl

/-- The state has been presented: no payload is left under it, and no other entry is new. -/
structure UsesUp (start : Server T) (state : String) (final : Server T) : Prop where
  gone : ∀ payload, final.redis.lookup start.clock (.oauthState state) ≠ some (.oauth payload)
  fewer : ∀ other entry, final.redis (.oauthState other) = some entry →
    start.redis (.oauthState other) = some entry

theorem keeps_usesUp {α : Type} (program : App T α) [Calls (Command.Spares Key.IsState) program]
    (start : Server T) (state : String) : Keeps handle (UsesUp start state) program := by
  refine Keeps.of_final fun server used => ?_
  have spared (other : String) : (program.run handle server).2.redis (.oauthState other) =
      server.redis (.oauthState other) := states_spared rfl other
  constructor
  · intro payload
    rw [ExpiringStore.lookup_congr (spared state)]
    exact used.gone payload
  · intro other entry found
    rw [spared other] at found
    exact used.fewer other entry found

theorem triple_popState_usesUp (start : Server T) (state provider : String) :
    Triple handle (· = start) (popState state provider) (fun _ => UsesUp start state)
      (fun _ => UsesUp start state) := by
  refine Triple.of_final ?_
  rintro _ rfl
  rename_i start
  simp only [popState, run_bind, run_getKey]
  have untouched (absent : ∀ payload,
      start.redis.lookup start.clock (.oauthState state) ≠ some (.oauth payload)) :
      UsesUp start state start := ⟨absent, fun _ _ => id⟩
  cases stored : start.redis.lookup start.clock (.oauthState state) with
  | none => exact untouched (by simp [stored])
  | some value =>
    cases value with
    | flag | count => exact untouched (by simp [stored])
    | oauth payload =>
      have removed : UsesUp start state (start.popped state) := by
        constructor
        · simp [Server.popped]
        · intro other entry found
          simp only [Server.popped, ExpiringStore.remove] at found
          split at found
          · cases found
          · exact found
      simp only [run_bind, run_deleteKey, run_ite, run_throw, run_pure]
      split <;> exact removed

variable [FloorRing T]

theorem triple_oauthCallback_usesUp (start : Server T) (registry : String → Option Provider)
    (request : HttpRequest) (provider code state : String) :
    Triple handle (· = start) (oauthCallback env registry request provider code state)
      (fun _ => UsesUp start state) (fun _ => UsesUp start state) := by
  have resolved (payload : OAuthState) :
      Calls (Command.Spares Key.IsState) (callbackWith env registry provider code payload) := by
    unfold callbackWith
    infer_instance
  unfold oauthCallback
  rw [handleCallback_eq]
  refine Triple.bind (Triple.bind (triple_popState_usesUp start state provider) fun payload =>
    keeps_usesUp _ start state) ?_
  rintro ⟨user, mode⟩
  exact keeps_usesUp _ start state

omit [FloorRing T] in
/-- The request has started the flow at the server, whatever was done to it before. -/
theorem StatesOutcome.of_startAuthorization {arrival : Arrival} {start server final : Server T}
    {reply : Except AppError (Reply T)} {provider : String} {mode : OAuthMode}
    {linkUserId : Option Uuid} (linking : mode = .link → linkUserId.isSome)
    (clock : server.clock = start.clock)
    (same : ∀ state, server.redis (.oauthState state) = start.redis (.oauthState state))
    (silent : arrival.route.presentedState = none)
    (unflowed : ∀ error : AppError, arrival.flow (.error error : Except AppError (Reply T)) = none)
    (flowed : ∀ url, arrival.flow (.ok (.page (.redirect url)) : Except AppError (Reply T)) =
      some { provider, url, mode, linkUserId })
    (ran : (Reply.page <$> Page.redirect <$>
      startAuthorization env arrival.registry provider mode linkUserId).run handle server =
        (reply, final)) :
    StatesOutcome env arrival start reply final := by
  rw [run_map, run_map] at ran
  rcases run_startAuthorization env arrival.registry provider mode linkUserId linking server with
    ⟨error, failed⟩ | ⟨url, payload, draws, stored, started⟩
  · rw [failed] at ran
    cases ran
    exact .elsewhere (unflowed error) silent same
  · rw [started] at ran
    cases ran
    refine .starts (flowed url) silent stored fun state => ?_
    simp only [ExpiringStore.put, Key.oauthState.injEq, clock, same]

omit [FloorRing T] in
theorem getAuthContext_shownUser {request : HttpRequest} {context : AuthContext T}
    (ran : (getAuthContext env request).run handle server = (.ok context, final)) :
    request.shownUser = some context.user.id := by
  have start : Follows env (.owned request) server server := .refl server
  obtain ⟨-, -, claims, presented, owner⟩ := (triple_getAuthContext server request).returned start ran
  simp [HttpRequest.shownUser, presented, owner]

theorem statesOutcome_dispatch {arrival : Arrival} {start final : Server T}
    {reply : Except AppError (Reply T)}
    (ran : (dispatch env arrival).run handle start = (reply, final)) :
    StatesOutcome env arrival start reply final := by
  obtain ⟨http, route, registry⟩ := arrival
  have elsewhere [Calls (Command.Spares Key.IsState) (dispatch env ⟨http, route, registry⟩)]
      (unflowed : Arrival.flow ⟨http, route, registry⟩ reply = none)
      (silent : route.presentedState = none) :
      StatesOutcome env ⟨http, route, registry⟩ start reply final :=
    .elsewhere unflowed silent (states_spared ran)
  cases route with
  | refresh =>
    have : Calls (Command.Spares Key.IsState) (dispatch env ⟨http, .refresh, registry⟩) :=
      Calls.refresh env http
    exact elsewhere rfl rfl
  | logout =>
    have : Calls (Command.Spares Key.IsState) (dispatch env ⟨http, .logout, registry⟩) := by
      unfold dispatch; infer_instance
    exact elsewhere rfl rfl
  | login route =>
    -- the callback is the only login that deletes a state
    by_cases callback : ∃ provider code state, route = .oauthCallback provider code state
    · obtain ⟨provider, code, state, rfl⟩ := callback
      have used : Triple handle (· = start)
          (Reply.login <$> oauthCallback env registry http provider code state)
          (fun _ => UsesUp start state) (fun _ => UsesUp start state) :=
        Triple.bind (triple_oauthCallback_usesUp start registry http provider code state) fun reply =>
          keeps_usesUp (pure (Reply.login reply)) start state
      have left := used.outcome start rfl
      simp only [dispatch, serveLogin] at ran
      rw [ran] at left
      cases reply with
      | ok => exact .presents rfl rfl left.gone left.fewer
      | error => exact .presents rfl rfl left.gone left.fewer
    · have other : ∀ provider code state, route ≠ .oauthCallback provider code state := by
        intro provider code state same
        exact callback ⟨provider, code, state, same⟩
      have : Calls (Command.Spares Key.IsState) (serveLogin env registry http route) :=
        Calls.serveLogin env registry http route other
      have : Calls (Command.Spares Key.IsState) (dispatch env ⟨http, .login route, registry⟩) := by
        unfold dispatch; infer_instance
      refine elsewhere rfl ?_
      cases route with
      | oauthCallback => exact absurd rfl (other _ _ _)
      | _ => rfl
  | openTo route =>
    -- only authorize and link start a flow, one before and one behind authentication
    by_cases authorize : ∃ provider, route = .oauthAuthorize provider
    · obtain ⟨provider, rfl⟩ := authorize
      have login : OAuthMode.login = .link → (none : Option Uuid).isSome := by
        intro same
        cases same
      exact .of_startAuthorization login rfl (fun _ => rfl) rfl (fun _ => rfl) (fun _ => rfl) ran
    · have other : ∀ provider, route ≠ .oauthAuthorize provider := by
        intro provider same
        exact authorize ⟨provider, same⟩
      have : Calls (Command.Spares Key.IsState) (serveOpen env registry http route) :=
        Calls.serveOpen env registry http route other
      have : Calls (Command.Spares Key.IsState) (dispatch env ⟨http, .openTo route, registry⟩) := by
        unfold dispatch; infer_instance
      refine elsewhere ?_ rfl
      cases route with
      | oauthAuthorize => exact absurd rfl (other _)
      | _ => rfl
  | withAccess route =>
    by_cases link : ∃ provider, route = .oauthLink provider
    · obtain ⟨provider, rfl⟩ := link
      have whole : (Reply.page <$> (getAuthContext env http >>= fun context =>
          oauthLink env registry context provider)).run handle start = (reply, final) := ran
      cases shown : (getAuthContext env http).run handle start with
      | mk result middle =>
        rw [run_map, run_bind, shown] at whole
        have same := states_spared shown
        cases result with
        | error error =>
          cases whole
          exact .elsewhere rfl rfl same
        | ok context =>
          have entry : Follows env (.owned http) start start := .refl start
          have follows := ((triple_getAuthContext start http).returned entry shown).1
          rw [← run_map] at whole
          refine .of_startAuthorization (fun _ => rfl) follows.clock same rfl (fun _ => rfl)
            (fun url => ?_) whole
          simp only [Arrival.flow, getAuthContext_shownUser shown]
    · have other : ∀ provider, route ≠ .oauthLink provider := by
        intro provider same
        exact link ⟨provider, same⟩
      have inner (context : AuthContext T) :
          Calls (Command.Spares Key.IsState) (serveWithContext env registry http context route) :=
        Calls.serveWithContext env registry http context route other
      have : Calls (Command.Spares Key.IsState) (serveProtected env registry http route) := by
        unfold serveProtected
        infer_instance
      have : Calls (Command.Spares Key.IsState) (dispatch env ⟨http, .withAccess route, registry⟩) := by
        unfold dispatch; infer_instance
      refine elsewhere ?_ rfl
      cases route with
      | oauthLink => exact absurd rfl (other _)
      | _ => rfl

/-! ## Runs -/

variable {world : World T} {arrival : Arrival}

variable (env) in
/-- A request that the global rate limit refuses starts no flow and leaves the states alone; what any
other does to them is listed. -/
theorem states_exchange (world : World T) (arrival : Arrival) :
    (¬ world.LetsPass env arrival ∧ (world.exchange env arrival).flow = none ∧
      ∀ state, (world.exchange env arrival).after.redis (.oauthState state) =
        world.redis (.oauthState state)) ∨
    StatesOutcome env arrival world.server (world.exchange env arrival).reply
      (world.exchange env arrival).after := by
  have outcome {limited final : Server T} {result : Except AppError (Reply T)}
      (passes : world.Passes env arrival limited)
      (ran : (dispatch env arrival).run handle limited = (result, final)) :
      StatesOutcome env arrival world.server result final :=
    (statesOutcome_dispatch ran).after_limit passes.aside.clock (states_spared passes)
  have flow : (world.exchange env arrival).flow = arrival.flow (world.exchange env arrival).reply :=
    rfl
  have exchanged := exchanged env world arrival
  rw [flow]
  generalize (world.exchange env arrival).reply = result at exchanged ⊢
  generalize (world.exchange env arrival).after = after at exchanged ⊢
  cases exchanged with
  -- a request over the limit reaches no route
  | @refused limited error ran =>
    have refused : ¬ world.LetsPass env arrival := by simp [World.LetsPass, ran]
    exact .inl ⟨refused, arrival.flow_error error, states_spared ran⟩
  | failed passes ran => exact .inr (outcome passes ran)
  | answered passes ran => exact .inr (outcome passes ran).commit

/-- Every stored payload is that of a flow whose URL carried its state, under the flow's deadline. -/
def World.StatesMinted (env : Environment T) (world : World T) : Prop :=
  ∀ state entry, world.redis (.oauthState state) = some entry →
    ∃ authorization ∈ world.history, ∃ flow payload, authorization.flow = some flow ∧
      flow.url.state = state ∧ flow.StoredAs env authorization.arrival.registry payload ∧
      entry = ⟨.oauth payload,
        some (authorization.before.clock + (env.settings.oauthStateTtlSeconds : ℕ))⟩

/-- A state whose payload is still there has not been presented. -/
def World.StatesUnpresented (env : Environment T) (world : World T) : Prop :=
  ∀ state payload, world.redis.lookup world.clock (.oauthState state) = some (.oauth payload) →
    ∀ exchange ∈ world.history, ¬ exchange.Presents env state

theorem statesMinted_afterRequest (minted : world.StatesMinted env) :
    (world.afterRequest env arrival).StatesMinted env := by
  intro state entry found
  have old (before : world.redis (.oauthState state) = some entry) :
      ∃ authorization ∈ (world.afterRequest env arrival).history, ∃ flow payload,
        authorization.flow = some flow ∧ flow.url.state = state ∧
          flow.StoredAs env authorization.arrival.registry payload ∧
          entry = ⟨.oauth payload,
            some (authorization.before.clock + (env.settings.oauthStateTtlSeconds : ℕ))⟩ := by
    obtain ⟨authorization, member, rest⟩ := minted state entry before
    exact ⟨authorization, List.mem_cons_of_mem _ member, rest⟩
  change (world.exchange env arrival).after.redis (.oauthState state) = some entry at found
  rcases states_exchange env world arrival with ⟨-, -, same⟩ | outcome
  · exact old ((same state).symm.trans found)
  · cases outcome with
    | elsewhere unflowed silent same => exact old ((same state).symm.trans found)
    | presents unflowed presented gone fewer => exact old (fewer state entry found)
    | @starts flow payload flowed silent stored written =>
      rw [written] at found
      by_cases isNew : state = flow.url.state
      · rw [if_pos isNew] at found
        exact ⟨_, List.mem_cons_self, flow, payload, flowed, isNew.symm, stored,
          (Option.some.inj found).symm⟩
      · rw [if_neg isNew] at found
        exact old found

theorem statesMinted_of_reachable (reachable : (service env).Reachable world) :
    world.StatesMinted env := by
  refine System.Reachable.invariant (World.StatesMinted env) reachable ?_ ?_
  · intro first starts state entry found
    rw [starts.noRedis] at found
    cases found
  · intro before event after _ minted step
    cases step with
    | request => exact statesMinted_afterRequest minted
    | tick | setUserActive => exact minted

/-- Presenting a state takes its payload away, and a fresh state has not been presented. -/
theorem statesUnpresented_afterRequest (unpresented : world.StatesUnpresented env)
    (fresh : FreshStates env (world.afterRequest env arrival).history) :
    (world.afterRequest env arrival).StatesUnpresented env := by
  intro state payload found
  have clock : (world.exchange env arrival).after.clock = world.clock :=
    (served env world arrival).clock
  change (world.exchange env arrival).after.redis.lookup (world.exchange env arrival).after.clock
    (.oauthState state) = some (.oauth payload) at found
  rw [clock] at found
  have earlier (new : ¬ (world.exchange env arrival).Presents env state)
      (before : world.redis.lookup world.clock (.oauthState state) = some (.oauth payload)) :
      ∀ exchange ∈ (world.afterRequest env arrival).history, ¬ exchange.Presents env state := by
    intro exchange member
    rcases List.mem_cons.mp member with rfl | member
    · exact new
    · exact unpresented state payload before exchange member
  rcases states_exchange env world arrival with ⟨refused, -, same⟩ | outcome
  · rw [ExpiringStore.lookup_congr (same state)] at found
    exact earlier (fun presents => refused presents.2) found
  · cases outcome with
    | elsewhere unflowed silent same =>
      rw [ExpiringStore.lookup_congr (same state)] at found
      exact earlier (fun presents => nomatch silent.symm.trans presents.1) found
    | presents unflowed presented gone fewer =>
      refine earlier (fun presents => ?_) (ExpiringStore.lookup_of_entry (fewer state) found)
      obtain rfl := Option.some.inj (presented.symm.trans presents.1)
      exact gone payload found
    | @starts flow _ flowed silent stored written =>
      have unpresentedNow : ¬ (world.exchange env arrival).Presents env state :=
        fun presents => nomatch silent.symm.trans presents.1
      -- a new state is fresh, so no earlier request presented it
      by_cases isNew : state = flow.url.state
      · subst isNew
        intro exchange member
        rcases List.mem_cons.mp member with rfl | member
        · exact unpresentedNow
        · exact ((List.pairwise_cons.mp fresh).1 exchange member flow flowed).2
      · have same := (written state).trans (if_neg isNew)
        rw [ExpiringStore.lookup_congr same] at found
        exact earlier unpresentedNow found

theorem statesUnpresented_of_reachable (reachable : (service env).Reachable world)
    (fresh : FreshStates env world.history) : world.StatesUnpresented env := by
  refine System.Reachable.invariant
    (fun world => FreshStates env world.history → world.StatesUnpresented env) reachable ?_ ?_ fresh
  · intro first starts _ state payload found
    simp [starts.noRedis] at found
  · intro before event after _ unpresented step fresh
    cases step with
    | request => exact statesUnpresented_afterRequest (unpresented (List.pairwise_cons.mp fresh).2) fresh
    | tick later =>
      intro state payload found
      exact unpresented fresh state payload (ExpiringStore.lookup_earlier later found)
    | setUserActive => exact unpresented fresh

/-- The flows of the two requests, if they started any, have different states. -/
def Exchange.Apart (first second : Exchange T) : Prop :=
  ∀ flow other, first.flow = some flow → second.flow = some other → other.url.state ≠ flow.url.state

omit [CommRing T] [LinearOrder T] [FloorRing T] in
theorem Exchange.apart_symm (first second : Exchange T) (apart : first.Apart second) :
    second.Apart first :=
  fun flow other started alsoStarted same => apart other flow alsoStarted started same.symm

instance : Std.Symm (Exchange.Apart (T := T)) := ⟨Exchange.apart_symm⟩

omit [FloorRing T] in
/-- At most one flow starts with a state. -/
theorem flow_unique {history : List (Exchange T)} (fresh : FreshStates env history)
    {first second : Exchange T} (inFirst : first ∈ history) (inSecond : second ∈ history)
    {flow other : Flow} (started : first.flow = some flow) (alsoStarted : second.flow = some other)
    (same : other.url.state = flow.url.state) : second = first := by
  have distinct : history.Pairwise Exchange.Apart :=
    fresh.imp fun apart flow other started alsoStarted => (apart flow started).1 other alsoStarted
  by_contra different
  exact distinct.forall inFirst inSecond (Ne.symm different) flow other started alsoStarted same

/-- The flow that the authorization started is the one that the payload under the state belongs to. -/
structure World.Continues (env : Environment T) (world : World T) (provider state : String)
    (payload : OAuthState) (authorization : Exchange T) (flow : Flow) : Prop where
  started : authorization ∈ world.history ∧ authorization.flow = some flow
  carries : flow.url.state = state
  /-- no other authorization returned the state -/
  only : ∀ other ∈ world.history, ∀ otherFlow, other.flow = some otherFlow →
    otherFlow.url.state = state → other = authorization
  sameProvider : flow.provider = provider
  recent : world.clock < authorization.before.clock + (env.settings.oauthStateTtlSeconds : ℕ)
  unpresented : ∀ earlier ∈ world.history, ¬ earlier.Presents env state
  stored : flow.StoredAs env authorization.arrival.registry payload

/-- A callback whose state is accepted continues the one authorization that returned the state: it
is for the same provider, comes in time, is the first to present the state, and goes on with the
mode, the user and the code verifier of that authorization. -/
theorem callback_continues_flow (reachable : (service env).Reachable world)
    (fresh : FreshStates env world.history) {http : HttpRequest}
    {registry : String → Option Provider} {provider code state : String} {limited next : Server T}
    {payload : OAuthState}
    (passes : world.Passes env
      { http, route := .login (.oauthCallback provider code state), registry } limited)
    (popped : (popState state provider).run handle limited = (.ok payload, next)) :
    (∃ authorization flow, world.Continues env provider state payload authorization flow) ∧
      (handleCallback env registry provider code state).run handle limited =
        (callbackWith env registry provider code payload).run handle next := by
  obtain ⟨-, sameProvider, stored⟩ := (triple_popState limited state provider).returned rfl popped
  refine ⟨?_, by rw [handleCallback_eq, run_bind, popped]⟩
  have clock : limited.clock = world.clock := passes.aside.clock
  rw [ExpiringStore.lookup_congr (states_spared passes state), clock] at stored
  have unpresented := statesUnpresented_of_reachable reachable fresh state payload stored
  obtain ⟨entry, kept, live⟩ := ExpiringStore.lookup_entry stored
  obtain ⟨authorization, member, flow, minted, started, carries, storedAs, rfl⟩ :=
    statesMinted_of_reachable reachable state entry kept
  obtain rfl : minted = payload := by simpa using live.1
  exact ⟨authorization, flow, {
    started := ⟨member, started⟩
    carries
    only := fun other inHistory otherFlow alsoStarted same =>
      flow_unique fresh member inHistory started alsoStarted (same.trans carries.symm)
    sameProvider := storedAs.provider.symm.trans sameProvider
    recent := live.2 _ rfl
    unpresented
    stored := storedAs }⟩

instance (exchange : Exchange T) (state : String) : Decidable (exchange.Presents env state) :=
  inferInstanceAs (Decidable (_ ∧ _))

instance (history : List (Exchange T)) : Decidable (FreshStates env history) :=
  inferInstanceAs (Decidable (history.Pairwise _))

end

/-! ## Two flows at a time -/

/-- Both providers, each with an account of its own for every visitor. -/
def bothProviders (name : String) : Option Provider :=
  if name ∉ ["google", "github"] then none
  else some {
    usesPkce := name = "google"
    exchangeCode := fun code verifier =>
      if verifier.isSome = (name = "google") then .ok code else .error (.auth "invalid_grant")
    fetchUserInfo := fun token => .ok
      { provider := name, accountId := token, email := some (token ++ "@example.org"), name := token
        emailVerified := true } }

def authorizeAt (provider : String) : Arrival where
  http := {}
  route := .openTo (.oauthAuthorize provider)
  registry := bothProviders

def callbackFrom (provider code state : String) : Arrival where
  http := {}
  route := .login (.oauthCallback provider code state)
  registry := bothProviders

/-- One authorization for each provider, and some time later a callback of the second. -/
def twoFlows : World ℚ :=
  World.new.play demo
    [.request (authorizeAt "google"), .request (authorizeAt "github"), .tick 30]

theorem two_flows_stay_apart : ∃ payload authorization flow,
    twoFlows.Continues demo "google" "url-safe-token-0" payload authorization flow := by
  let callback := callbackFrom "google" "bob" "url-safe-token-0"
  have reachable : (service demo).Reachable twoFlows :=
    reachable_play World.new_starts (by decide +kernel)
  have passes : twoFlows.Passes demo callback (twoFlows.limited demo callback) :=
    World.passes_iff.mpr ⟨by unfold World.LetsPass; decide +kernel, rfl⟩
  have accepted : ((popState "url-safe-token-0" "google").run handle
      (twoFlows.limited demo callback)).1.isOk := by decide +kernel
  obtain ⟨payload, popped⟩ := exists_ok accepted
  exact ⟨payload, (callback_continues_flow reachable (by decide +kernel) passes
    (Prod.ext popped rfl)).1⟩

end EnterpriseAuth
