import EnterpriseAuth.Requests.Logins

/-!
# Outcomes of a request

`Served` lists the ways in which the service answers a request, with the server it leaves behind:
the limiter refuses it, or the route fails, or it answers and the transaction is committed.  Every
property of runs is derived from this list.
-/

namespace EnterpriseAuth

open Effects Program SessionService

set_option synthInstance.maxSize 1000

variable {T : Type} (env : Environment T) [CommRing T] [LinearOrder T] [FloorRing T]

/-- What the route of a request may create and blacklist. -/
def Arrival.permits (arrival : Arrival) (start : Server T) : Permits T :=
  match arrival.route with
  | .login route => .creating start (route.Gate env start arrival.registry arrival.http)
  | .logout => .presented start arrival.http
  | .withAccess _ => .owned arrival.http
  | _ => .none

/-- The tokens in the answer of a route other than refresh are backed by the server. -/
def Reply.Backed (reply : Reply T) (arrival : Arrival) (start server : Server T) : Prop :=
  match reply with
  | .login reply => ∃ route, arrival.route = .login route ∧
      reply.Sound start server (route.Gate env start arrival.registry arrival.http)
        (route.Challenges env start arrival.http)
  | .refreshed _ _ => False
  | .page _ => True

def Server.commit (server : Server T) : Server T := { server with committed := server.working }

/-- The global rate limit lets the request pass to its route, which finds the server `limited`. -/
def World.Passes (world : World T) (arrival : Arrival) (limited : Server T) : Prop :=
  (rateLimitMiddleware env arrival.http).run handle world.server = (.ok (), limited)

omit [FloorRing T] in
variable {env} in
theorem World.Passes.aside {world : World T} {arrival : Arrival} {limited : Server T}
    (passes : world.Passes env arrival limited) : Aside .reads world.server limited :=
  Within.of_exact .reads passes

/-- The answer of the global rate limit, which depends on the state before the request only. -/
def World.LetsPass (world : World T) (arrival : Arrival) : Prop :=
  ((rateLimitMiddleware env arrival.http).run handle world.server).1 = .ok ()

/-- The server once the global rate limit has counted the request. -/
def World.limited (world : World T) (arrival : Arrival) : Server T :=
  ((rateLimitMiddleware env arrival.http).run handle world.server).2

omit [FloorRing T] in
variable {env} in
theorem World.passes_iff {world : World T} {arrival : Arrival} {limited : Server T} :
    world.Passes env arrival limited ↔
      world.LetsPass env arrival ∧ world.limited env arrival = limited := by
  unfold World.Passes World.LetsPass World.limited
  constructor
  · intro passes
    rw [passes]
    exact ⟨rfl, rfl⟩
  · rintro ⟨passes, rfl⟩
    rw [← passes]

inductive Served (world : World T) (arrival : Arrival) :
    Except AppError (Reply T) → Server T → Prop
  /-- the global rate limit -/
  | refused {limited : Server T} {error : AppError} (aside : Aside .reads world.server limited)
    (tooMany : error.kind = .rateLimited) : Served world arrival (.error error) limited
  | failed {limited final : Server T} {error : AppError} (passes : world.Passes env arrival limited)
    (other : arrival.route ≠ .refresh)
    (follows : Follows env (arrival.permits env limited) limited final) :
    Served world arrival (.error error) final
  | answered {limited final : Server T} {reply : Reply T}
    (passes : world.Passes env arrival limited) (other : arrival.route ≠ .refresh)
    (follows : Follows env (arrival.permits env limited) limited final)
    (backed : reply.Backed env arrival limited final) :
    Served world arrival (.ok reply) final.commit
  | refreshFailed {limited final : Server T} {error : AppError}
    (passes : world.Passes env arrival limited) (isRefresh : arrival.route = .refresh)
    (outcome : RefreshOutcome env limited arrival.http (.error error) final) :
    Served world arrival (.error error) final
  | refreshAnswered {limited final : Server T} {reply : Reply T}
    (passes : world.Passes env arrival limited) (isRefresh : arrival.route = .refresh)
    (outcome : RefreshOutcome env limited arrival.http (.ok reply) final) :
    Served world arrival (.ok reply) final.commit

omit [FloorRing T] in
/-- The global limit lets a request pass or refuses it as rate limited. -/
theorem rateLimitMiddleware_error {request : HttpRequest} {server final : Server T}
    {error : AppError}
    (ran : (rateLimitMiddleware env request).run handle server = (.error error, final)) :
    error.kind = .rateLimited := by
  simp only [rateLimitMiddleware, run_tryCatch, run_ite, run_throw, run_pure] at ran
  split at ran
  next => cases ran
  next raised _ _ =>
    by_cases tooMany : raised.kind = .rateLimited
    · rw [if_pos tooMany] at ran
      cases ran
      exact tooMany
    · rw [if_neg tooMany] at ran
      cases ran

omit [FloorRing T] in
theorem run_commitAfterResponse (server : Server T) :
    commitAfterResponse.run handle server = (.ok (), server.commit) := by
  simp only [commitAfterResponse, run_tryCatch, run_commit, Server.commit]

omit [FloorRing T] in
theorem run_getDb {α : Type} (program : App T α) (server : Server T) :
    (getDb program).run handle server =
      match program.run handle server with
      | (.ok value, final) => (.ok value, final.commit)
      | (.error error, final) => (.error error, final) := by
  simp only [getDb, run_bind, run_commitAfterResponse, run_pure]
  cases program.run handle server with
  | mk result final => cases result <;> rfl

/-- How far a request gets: the limiter refuses it, or its route fails, or its route answers. -/
inductive Exchanged (world : World T) (arrival : Arrival) :
    Except AppError (Reply T) → Server T → Prop
  | refused {limited : Server T} {error : AppError}
    (ran : (rateLimitMiddleware env arrival.http).run handle world.server = (.error error, limited)) :
    Exchanged world arrival (.error error) limited
  | failed {limited final : Server T} {error : AppError} (passes : world.Passes env arrival limited)
    (ran : (dispatch env arrival).run handle limited = (.error error, final)) :
    Exchanged world arrival (.error error) final
  | answered {limited final : Server T} {reply : Reply T}
    (passes : world.Passes env arrival limited)
    (ran : (dispatch env arrival).run handle limited = (.ok reply, final)) :
    Exchanged world arrival (.ok reply) final.commit

theorem exchanged (world : World T) (arrival : Arrival) :
    Exchanged env world arrival (world.exchange env arrival).reply
      (world.exchange env arrival).after := by
  simp only [World.exchange, serve, run_bind, run_getDb]
  cases passed : (rateLimitMiddleware env arrival.http).run handle world.server with
  | mk result limited =>
    cases result with
    | error => exact .refused passed
    | ok =>
      cases ran : (dispatch env arrival).run handle limited with
      | mk result final =>
        simp only [ran]
        cases result with
        | error => exact .failed passed ran
        | ok => exact .answered passed ran

/-- The refresh route, as `dispatch` runs it. -/
theorem refreshOutcome_of_dispatch {arrival : Arrival} (isRefresh : arrival.route = .refresh)
    {start final : Server T} {result : Except AppError (Reply T)}
    (ran : (dispatch env arrival).run handle start = (result, final)) :
    RefreshOutcome env start arrival.http result final := by
  simp only [dispatch, isRefresh] at ran
  have outcome := run_refresh env start arrival.http
  rwa [ran] at outcome

/-- The routes other than refresh. -/
theorem triple_dispatch (start : Server T) (arrival : Arrival) (other : arrival.route ≠ .refresh) :
    Triple handle (· = start) (dispatch env arrival)
      (fun reply server => Follows env (arrival.permits env start) start server ∧
        reply.Backed env arrival start server)
      (fun _ => Follows env (arrival.permits env start) start) := by
  obtain ⟨http, route, registry⟩ := arrival
  cases route with
  | login route =>
    refine Triple.bind (triple_serveLogin start registry http route) fun reply => Triple.pure ?_
    exact fun server holds => ⟨holds.1, route, rfl, holds.2⟩
  | refresh => exact absurd rfl other
  | logout =>
    refine Triple.start (fun error final ran => ?_) fun page final ran => Triple.pure ?_
    all_goals have follows := follows_logout env start http
    all_goals rw [ran] at follows
    · exact follows
    · rintro _ rfl
      exact ⟨follows, trivial⟩
  | openTo route =>
    refine Triple.start (fun error final ran => ?_) fun page final ran => Triple.pure ?_
    · exact Obeys.of_exact ran
    · rintro _ rfl
      exact ⟨Obeys.of_exact ran, trivial⟩
  | withAccess route =>
    have obeys : Obeys env (.owned http) (serveProtected env registry http route) := inferInstance
    refine Triple.start (fun error final ran => ?_) fun page final ran => Triple.pure ?_
    · exact obeys.of_exact ran
    · rintro _ rfl
      exact ⟨obeys.of_exact ran, trivial⟩

theorem served (world : World T) (arrival : Arrival) :
    Served env world arrival (world.exchange env arrival).reply
      (world.exchange env arrival).after := by
  have exchanged := exchanged env world arrival
  generalize (world.exchange env arrival).reply = result at exchanged ⊢
  generalize (world.exchange env arrival).after = after at exchanged ⊢
  -- the refresh has an outcome of its own, every other route keeps to its permits
  cases exchanged with
  | refused ran => exact .refused (Within.of_exact .reads ran) (rateLimitMiddleware_error env ran)
  | @failed limited final error passes ran =>
    by_cases isRefresh : arrival.route = .refresh
    · exact .refreshFailed passes isRefresh (refreshOutcome_of_dispatch env isRefresh ran)
    · exact .failed passes isRefresh ((triple_dispatch env limited arrival isRefresh).failed rfl ran)
  | @answered limited final reply passes ran =>
    by_cases isRefresh : arrival.route = .refresh
    · exact .refreshAnswered passes isRefresh (refreshOutcome_of_dispatch env isRefresh ran)
    · obtain ⟨follows, backed⟩ := (triple_dispatch env limited arrival isRefresh).returned rfl ran
      exact .answered passes isRefresh follows backed

end EnterpriseAuth
