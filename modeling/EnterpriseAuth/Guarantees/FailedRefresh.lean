import EnterpriseAuth.Api.Failures
import EnterpriseAuth.Guarantees.Logout
import EnterpriseAuth.Requests.Conduct

/-!
# A refresh that fails

`POST /auth/refresh` blacklists the token that it is shown before anything else can go wrong.  A
client whose request fails later keeps the old token only, and the blacklist takes the next attempt
for a replay.  The token survives a failure exactly when its entry was not set.
-/

namespace EnterpriseAuth

open Effects Program SessionService

variable {T : Type} {env : Environment T} [CommRing T] [LinearOrder T]

/-! ## The blacklist while operations fail -/

/-- The command takes no entry off the blacklist. -/
def Command.KeepsListed : Command T → Prop
  | .redis command => ∀ jti, command.writes = some (.revokedJti jti) →
      ∃ value ex, command = .set (.revokedJti jti) value ex
  | _ => True

/-- The command neither writes the blacklist nor commits. -/
def Command.LeavesTokens : Command T → Prop
  | .redis command => ∀ jti, command.writes ≠ some (.revokedJti jti)
  | .commit => False
  | _ => True

omit [CommRing T] [LinearOrder T] in
theorem Command.LeavesTokens.keepsListed {command : Command T} (leaves : command.LeavesTokens) :
    command.KeepsListed := by
  cases command with
  | redis command => exact fun jti writes => absurd writes (leaves jti)
  | commit => exact leaves.elim
  | now | draw | view | write | addTask => trivial

/-- The clock stands still during a request. -/
theorem clock_failing {α : Type} (program : App T α) (faulty : Faulty (Server T)) :
    (program.run failing faulty).2.state.clock = faulty.state.clock := by
  have keeps : Keeps failing (fun final => final.state.clock = faulty.state.clock) program :=
    (Every.anything program).keeps_faulty fun command server _ same =>
      (clock_handle command server).trans same
  exact keeps.final rfl

theorem blacklisted_redis {command : RedisCommand} {jti : Uuid}
    (other : command.writes ≠ some (.revokedJti jti)) (server : Server T) :
    (handle (.redis command) server).2.Blacklisted jti ↔ server.Blacklisted jti := by
  simp only [handle, Server.Blacklisted,
    ExpiringStore.lookup_congr (RedisCommand.execute_other other server.clock server.redis)]

/-- A token that is listed stays listed for the rest of the request. -/
theorem listed_handle [IsStrictOrderedRing T] {jti : Uuid} (command : Command T) (server : Server T)
    (keeps : command.KeepsListed) (listed : server.Blacklisted jti) :
    (handle command server).2.Blacklisted jti := by
  cases command with
  | redis command =>
    by_cases writes : command.writes = some (.revokedJti jti)
    · obtain ⟨value, ex, rfl⟩ := keeps jti writes
      simp only [handle, RedisCommand.execute]
      split
      next => exact listed
      next positive =>
        have later : server.clock < server.clock + (ex : T) := by
          simpa using Nat.pos_of_ne_zero positive
        simp [Server.Blacklisted, ExpiringStore.lookup_put_same, later]
    · exact (blacklisted_redis writes server).mpr listed
  | write change =>
    simp only [handle]
    split <;> exact listed
  | now | draw | view | commit | addTask => exact listed

/-! ## The steps of a rotation -/

/-- The command cannot fail of itself. -/
def Command.Certain (command : Command T) : Prop := faultModel.error command = none

omit [LinearOrder T] in
theorem certain_createToken [LinearOrder T] [FloorRing T] (subject : Uuid) (type : TokenType)
    (lifetimeSeconds : ℕ) (sid : Option Uuid) (rememberMe : Bool) :
    (createToken subject type lifetimeSeconds sid rememberMe : App T Claims).Every Command.Certain
      fun _ => True :=
  Every.bind (Every.call rfl fun _ => trivial) fun _ _ =>
    Every.bind (Every.call rfl fun _ => trivial) fun _ _ => Every.pure trivial

theorem certain_issuePair [FloorRing T] (userId : Uuid) (rememberMe : Bool) (sid : Option Uuid) :
    (TokenService.issuePair env userId rememberMe sid).Every Command.Certain fun _ => True :=
  Every.bind (certain_createToken ..) fun _ _ =>
    Every.bind (certain_createToken ..) fun _ _ => Every.pure trivial

theorem certain_decodeToken (token : Token) (expected : TokenType) :
    (decodeToken token expected : App T Claims).Every Command.Certain
      fun claims => token = .signed claims := by
  cases token with
  | unsigned => exact Every.throw _
  | signed claims =>
    refine Every.bind (Every.call rfl fun _ => trivial) fun now _ => ?_
    exact Every.ite (fun _ => Every.throw _) fun _ =>
      Every.ite (fun _ => Every.throw _) fun _ => Every.pure rfl

omit [CommRing T] [LinearOrder T] in
theorem leaves_rebindRefresh (userId sid jti : Uuid) :
    (rebindRefresh env userId sid jti).Every Command.LeavesTokens fun _ => True := by
  refine Every.bind (Every.call trivial fun _ => trivial) fun db _ => ?_
  cases db.sessions.find sid with
  | none => exact Every.throw _
  | some row =>
    refine Every.ite (fun _ => Every.throw _) fun _ => ?_
    refine Every.bind (Every.call trivial fun _ => trivial) fun now _ => ?_
    refine Every.bind (Every.call trivial fun _ => trivial) fun _ _ => ?_
    exact Every.call (by simp [Command.LeavesTokens, RedisCommand.writes]) fun _ => trivial

section
variable (limited : Faulty (Server T)) (claims : Claims)

/-- Presented to the route at `limited`, the token does not reach the blacklist: the look at the
blacklist fails, or less than a second is left of its life, or the entry is not set. -/
def SparesToken [FloorRing T] : Prop :=
  limited.plan.headD .works ≠ .works ∨ pyInt ((claims.exp : T) - limited.state.clock) ≤ 0 ∨
    limited.plan.tail.headD .works = .raises

/-- The token is being exchanged: nothing is committed yet, and it is listed unless it was
spared. -/
structure Exchanging [FloorRing T] (server : Server T) : Prop where
  committed : server.committed = limited.state.committed
  clock : server.clock = limited.state.clock
  listed : server.Blacklisted claims.jti ↔ ¬ SparesToken limited claims

end

section
variable [FloorRing T] {limited : Faulty (Server T)} {claims : Claims}

theorem Exchanging.step {command : Command T} (leaves : command.LeavesTokens) {server : Server T}
    (exchanging : Exchanging limited claims server) :
    Exchanging limited claims (handle command server).2 where
  clock := (clock_handle command server).trans exchanging.clock
  committed := by
    cases command with
    | commit => exact leaves.elim
    | write change =>
      simp only [handle]
      split <;> exact exchanging.committed
    | now | draw | redis | view | addTask => exact exchanging.committed
  listed := by
    cases command with
    | redis command => exact (blacklisted_redis (leaves claims.jti) server).trans exchanging.listed
    | commit => exact leaves.elim
    | write change =>
      simp only [handle]
      split <;> exact exchanging.listed
    | now | draw | view | addTask => exact exchanging.listed

/-- How the exchange fails: not with the error that stands for a replay. -/
def ExchangeFails (limited : Faulty (Server T)) (claims : Claims) (error : AppError)
    (faulty : Faulty (Server T)) : Prop :=
  error.kind ≠ .tokenReplay ∧ Exchanging limited claims faulty.state

omit [FloorRing T] in
/-- What the plan makes of a command of Redis. -/
theorem run_failing_redis (command : RedisCommand) (faulty : Faulty (Server T)) :
    (call (.redis command) : App T _).run failing faulty =
      match faulty.plan.headD .works with
      | .works => faulty.work handle (.redis command) faulty.plan.tail
      | .raises => faulty.fail (.redis "ConnectionError") faulty.state faulty.plan.tail
      | .lost => faulty.fail (.redis "ConnectionError") (handle (.redis command) faulty.state).2
          faulty.plan.tail :=
  (run_call _ _).trans (faulty_of_fallible handle faultModel rfl faulty)

theorem exchanging_verifyRefresh (live : claims.LiveRefresh limited.state.clock)
    (unlisted : ¬ limited.state.Blacklisted claims.jti) :
    Triple failing (· = limited) (TokenService.verifyRefresh (.signed claims))
      (fun payload faulty => payload = claims ∧ limited.plan.headD .works = .works ∧
        faulty = { limited with plan := limited.plan.tail })
      (ExchangeFails limited claims) := by
  have decoded : (tryCatch (decodeToken (.signed claims) .refresh) fun error =>
      if error.kind = .jwt then throw (.auth "Invalid or expired refresh token.")
      else throw error : App T Claims).run failing limited = (.ok claims, limited) := by
    rw [run_tryCatch, failing, (certain_decodeToken (.signed claims) .refresh).run_faulty,
      run_decodeToken_signed, if_neg (not_le.mpr live.unexpired), if_neg (not_not.mpr live.isRefresh)]
  have looked := run_failing_redis (.present (.revokedJti claims.jti)) limited
  have spared (other : limited.plan.headD .works ≠ .works) :
      limited.state.Blacklisted claims.jti ↔ ¬ SparesToken limited claims :=
    iff_of_false unlisted fun listed => listed (.inl other)
  constructor
  intro start entered
  rw [entered]
  simp only [TokenService.verifyRefresh, run_bind, decoded, TokenService.isRevoked]
  rw [show (present (.revokedJti claims.jti) : App T Bool).run failing limited = _ from looked]
  cases fate : limited.plan.headD .works with
  | works =>
    have absent : limited.state.redis.lookup limited.state.clock (.revokedJti claims.jti) = none :=
      Option.not_isSome_iff_eq_none.mp unlisted
    simp [Faulty.work, handle, RedisCommand.execute, absent]
  | raises =>
    exact ⟨ErrorKind.noConfusion, rfl, rfl, spared (by rw [fate]; exact Fate.noConfusion)⟩
  | lost =>
    exact ⟨ErrorKind.noConfusion, rfl, rfl, spared (by rw [fate]; exact Fate.noConfusion)⟩

/-- The entry that `revoke` sets. -/
theorem exchanging_set [IsStrictOrderedRing T] {checked : Faulty (Server T)}
    (after : checked = { limited with plan := limited.plan.tail })
    (works : limited.plan.headD .works = .works)
    (positive : 0 < pyInt ((claims.exp : T) - limited.state.clock))
    (set : limited.plan.tail.headD .works ≠ .raises) :
    Exchanging limited claims (handle (.redis (.set (.revokedJti claims.jti) .flag
      (pyInt ((claims.exp : T) - limited.state.clock)).toNat)) checked.state).2 := by
  subst after
  have seconds : (pyInt ((claims.exp : T) - limited.state.clock)).toNat ≠ 0 := by omega
  have later : limited.state.clock <
      limited.state.clock + ((pyInt ((claims.exp : T) - limited.state.clock)).toNat : T) := by
    simpa using Nat.pos_of_ne_zero seconds
  refine ⟨rfl, rfl, iff_of_true ?_ ?_⟩
  · simp [handle, RedisCommand.execute, seconds, Server.Blacklisted,
      ExpiringStore.lookup_put_same, later]
  · rintro (other | lapsed | raises)
    · exact other works
    · omega
    · exact set raises

theorem exchanging_revoke [IsStrictOrderedRing T] {checked : Faulty (Server T)}
    (unlisted : ¬ limited.state.Blacklisted claims.jti)
    (works : limited.plan.headD .works = .works)
    (after : checked = { limited with plan := limited.plan.tail }) :
    Triple failing (· = checked) (TokenService.revoke claims)
      (fun _ faulty => Exchanging limited claims faulty.state) (ExchangeFails limited claims) := by
  have same : checked.state = limited.state := by rw [after]
  have spared (spares : SparesToken limited claims) : Exchanging limited claims checked.state := by
    rw [same]
    exact ⟨rfl, rfl, iff_of_false unlisted fun listed => listed spares⟩
  have read : (now : App T T).run failing checked = (.ok limited.state.clock, checked) := by
    rw [← same]
    exact run_call _ _
  constructor
  intro start entered
  rw [entered]
  simp only [TokenService.revoke, run_bind, read]
  by_cases positive : 0 < pyInt ((claims.exp : T) - limited.state.clock)
  · rw [if_pos positive]
    have stored := run_failing_redis (.set (.revokedJti claims.jti) .flag
      (pyInt ((claims.exp : T) - limited.state.clock)).toNat) checked
    rw [show (setKey _ _ _ : App T Unit).run failing checked = _ from stored]
    have plan : checked.plan = limited.plan.tail := by rw [after]
    have set := exchanging_set after works positive
    cases fate : checked.plan.headD .works with
    | works =>
      have nonzero : ¬ (pyInt ((claims.exp : T) - limited.state.clock)).toNat = 0 := by omega
      have left := set (by rw [← plan, fate]; exact Fate.noConfusion)
      simpa [Faulty.work, handle, RedisCommand.execute, nonzero] using left
    | raises =>
      exact ⟨ErrorKind.noConfusion, spared (.inr (.inr (by rw [← plan, fate])))⟩
    -- the reply is lost, but Redis has executed the command
    | lost =>
      exact ⟨ErrorKind.noConfusion, set (by rw [← plan, fate]; exact Fate.noConfusion)⟩
  · rw [if_neg positive]
    exact spared (.inr (.inl (not_lt.mp positive)))

theorem exchanging_issuePair (userId : Uuid) (rememberMe : Bool) (sid : Option Uuid) :
    Triple failing (fun faulty => Exchanging limited claims faulty.state)
      (TokenService.issuePair env userId rememberMe sid)
      (fun _ faulty => Exchanging limited claims faulty.state) (ExchangeFails limited claims) := by
  constructor
  intro faulty exchanging
  rw [failing, (certain_issuePair userId rememberMe sid).run_faulty, run_issuePair]
  exact ⟨exchanging.committed, exchanging.clock, exchanging.listed⟩

theorem exchanging_rotate [IsStrictOrderedRing T] (live : claims.LiveRefresh limited.state.clock)
    (unlisted : ¬ limited.state.Blacklisted claims.jti) :
    Triple failing (· = limited) (TokenService.rotate env (.signed claims))
      (fun _ faulty => Exchanging limited claims faulty.state) (ExchangeFails limited claims) := by
  refine Triple.bind (exchanging_verifyRefresh live unlisted) fun payload => ?_
  constructor
  rintro checked ⟨rfl, works, after⟩
  refine Triple.outcome (Triple.bind (exchanging_revoke unlisted works after) fun _ => ?_) checked rfl
  exact Triple.bind (exchanging_issuePair ..) fun _ => Triple.pure fun _ => id

/-- What is left of the exchange touches neither the blacklist nor the committed database. -/
theorem exchanging_of_leaves {α : Type} {program : App T α}
    (leaves : program.Every Command.LeavesTokens fun _ => True) :
    Keeps failing (fun faulty => Exchanging limited claims faulty.state) program :=
  leaves.keeps_faulty fun _ _ spares exchanging => exchanging.step spares

theorem exchanging_refresh [IsStrictOrderedRing T] {request : HttpRequest}
    (presented : request.refreshToken = some (.signed claims))
    (live : claims.LiveRefresh limited.state.clock)
    (unlisted : ¬ limited.state.Blacklisted claims.jti) :
    Triple failing (· = limited) (refresh env request)
      (fun _ faulty => Exchanging limited claims faulty.state)
      fun _ faulty => Exchanging limited claims faulty.state := by
  simp only [refresh, presented]
  refine Triple.bind (Triple.tryCatch (exchanging_rotate live unlisted) fun error =>
    Triple.ite (fun replay => ?_) fun _ => Triple.throw fun _ fails => fails.2) fun result => ?_
  · exact ⟨fun faulty fails => absurd replay fails.1⟩
  · obtain ⟨userId, sid, pair, refreshJti⟩ := result
    have drawn : Keeps failing (fun faulty => Exchanging limited claims faulty.state)
        (uuid4 >>= fun csrfDraw => pure (.refreshed (env.tokenUrlsafe csrfDraw) pair) :
          App T (Reply T)) :=
      exchanging_of_leaves (Every.bind (Every.call trivial fun _ => trivial) fun _ _ =>
        Every.pure trivial)
    cases sid with
    | none => exact drawn
    | some sid =>
      exact Triple.bind (exchanging_of_leaves (leaves_rebindRefresh userId sid refreshJti))
        fun _ => drawn

/-- If the request does not succeed, the token is listed unless it was spared. -/
theorem exchanging_getDb [IsStrictOrderedRing T] {request : HttpRequest}
    (presented : request.refreshToken = some (.signed claims))
    (live : claims.LiveRefresh limited.state.clock)
    (unlisted : ¬ limited.state.Blacklisted claims.jti) :
    Triple failing (· = limited) (getDb (refresh env request)) (fun _ _ => True)
      fun _ faulty => Exchanging limited claims faulty.state :=
  Triple.bind (exchanging_refresh presented live unlisted) fun _ =>
    Triple.bind ((failing_commitAfterResponse (fun _ _ => trivial) fun _ _ => trivial).weaken
      (fun _ => id) (fun _ _ => id) fun _ _ => False.elim) fun _ => Triple.pure fun _ _ => trivial

end

/-! ## Listed tokens -/

section

omit [CommRing T] [LinearOrder T] in
theorem Command.Certain.keepsListed {command : Command T} (certain : command.Certain) :
    command.KeepsListed := by
  cases command with
  | redis => cases certain
  | now | draw | view | write | commit | addTask => trivial

omit [CommRing T] [LinearOrder T] in
theorem Command.Certain.reads {command : Command T} (certain : command.Certain) :
    command.Reads := by
  cases command with
  | write | commit => cases certain
  | now | draw | redis | view | addTask => trivial

omit [CommRing T] [LinearOrder T] in
/-- Ending a session sets entries of the blacklist and removes none. -/
theorem keepsListed_revokeBySid (sid : Uuid) (reason : String) :
    (revokeBySid env sid reason).Every Command.KeepsListed fun _ => True := by
  refine Every.sequence (Every.call trivial fun _ => trivial) fun db => ?_
  cases db.sessions.find sid with
  | none => exact Every.pure trivial
  | some row =>
    refine Every.ite (fun _ => ?_) fun _ => Every.pure trivial
    refine Every.sequence ?_ fun _ => Every.pure trivial
    refine Every.sequence (Every.call trivial fun _ => trivial) fun now => ?_
    refine Every.sequence (Every.call ?_ fun _ => trivial) fun _ => ?_
    · simp [Command.KeepsListed, RedisCommand.writes]
    refine Every.sequence (Every.call trivial fun _ => trivial) fun _ => ?_
    refine Every.sequence (Every.call ?_ fun _ => trivial) fun _ => ?_
    · simp [Command.KeepsListed, RedisCommand.writes]
    refine Every.sequence (Every.call ?_ fun _ => trivial) fun _ => Every.call ?_ fun _ => trivial
    · simp [Command.KeepsListed, RedisCommand.writes]
    · simp [Command.KeepsListed, RedisCommand.writes]

theorem keepsListed_handleRefreshReplay (token : Token) :
    (handleRefreshReplay env token).Every Command.KeepsListed fun _ => True := by
  have decoded : (decodeToken token .refresh : App T Claims).Every Command.KeepsListed
      fun _ => True :=
    (certain_decodeToken token .refresh).mono (fun _ => Command.Certain.keepsListed) fun _ _ => trivial
  refine Every.sequence (Every.tryCatch (Every.map decoded) fun _ => Every.pure trivial)
    fun payload => ?_
  cases payload.bind (·.sid) with
  | none => exact Every.pure trivial
  | some sid =>
    refine Every.sequence (keepsListed_revokeBySid sid "refresh_replay") fun record => ?_
    exact Every.ite (fun _ => Every.call trivial fun _ => trivial) fun _ => Every.pure trivial

variable [FloorRing T]

/-- The command at most sets an entry of Redis. -/
def Command.Sets (command : Command T) : Prop := command.KeepsListed ∧ command.Reads

/-- A rotation reads the clock and the blacklist, draws and sets one entry. -/
theorem sets_rotate (token : Token) :
    (TokenService.rotate env token).Every Command.Sets fun _ => True := by
  have certain (command : Command T) (isCertain : command.Certain) : command.Sets :=
    ⟨isCertain.keepsListed, isCertain.reads⟩
  have decoded : (decodeToken token .refresh : App T Claims).Every Command.Sets fun _ => True :=
    (certain_decodeToken token .refresh).mono certain fun _ _ => trivial
  refine Every.sequence (Every.sequence (Every.tryCatch decoded fun error =>
    Every.ite (fun _ => Every.throw _) fun _ => Every.throw _) fun payload => ?_) fun payload => ?_
  · refine Every.sequence (Every.call ?_ fun _ => trivial) fun listed => ?_
    · simp [Command.Sets, Command.KeepsListed, RedisCommand.writes, Command.Reads]
    exact Every.ite (fun _ => Every.sequence (Every.throw _) fun _ => Every.pure trivial)
      fun _ => Every.pure trivial
  · refine Every.sequence ?_ fun _ => ?_
    · refine Every.sequence (Every.call (certain .now rfl) fun _ => trivial) fun now => ?_
      refine Every.ite (fun _ => Every.call ?_ fun _ => trivial) fun _ => Every.pure trivial
      simp [Command.Sets, Command.KeepsListed, RedisCommand.writes, Command.Reads]
    · exact Every.sequence ((certain_issuePair ..).mono certain fun _ => id)
        fun _ => Every.pure trivial

theorem keepsListed_rotate (token : Token) :
    (TokenService.rotate env token).Every Command.KeepsListed fun _ => True :=
  (sets_rotate token).mono (fun _ => And.left) fun _ => id

theorem reads_rotate (token : Token) :
    (TokenService.rotate env token).Every Command.Reads fun _ => True :=
  (sets_rotate token).mono (fun _ => And.right) fun _ => id

theorem keepsListed_getDb (request : HttpRequest) :
    (getDb (refresh env request)).Every Command.KeepsListed fun _ => True := by
  refine Every.sequence ?_ fun _ => Every.sequence (Every.tryCatch (Every.call trivial fun _ => trivial)
    fun _ => Every.ite (fun _ => Every.pure trivial) fun _ => Every.throw _) fun _ => Every.pure trivial
  cases presented : request.refreshToken with
  | none => simp only [refresh, presented]; exact Every.throw _
  | some token =>
    simp only [refresh, presented]
    refine Every.sequence (Every.tryCatch (keepsListed_rotate token) fun error => Every.ite (fun _ =>
      Every.sequence (keepsListed_handleRefreshReplay token) fun _ => Every.throw _)
        fun _ => Every.throw _) fun result => ?_
    obtain ⟨userId, sid, pair, refreshJti⟩ := result
    have drawn : (uuid4 >>= fun csrfDraw => pure (.refreshed (env.tokenUrlsafe csrfDraw) pair) :
        App T (Reply T)).Every Command.KeepsListed fun _ => True :=
      Every.sequence (Every.call trivial fun _ => trivial) fun _ => Every.pure trivial
    cases sid with
    | none => exact drawn
    | some sid =>
      refine Every.sequence ?_ fun _ => drawn
      exact (leaves_rebindRefresh userId sid refreshJti).mono
        (fun _ => Command.LeavesTokens.keepsListed) fun _ => id

theorem listed_getDb [IsStrictOrderedRing T] (request : HttpRequest) (jti : Uuid) :
    Keeps failing (fun faulty => faulty.state.Blacklisted jti) (getDb (refresh env request)) :=
  (keepsListed_getDb request).keeps_faulty fun command server => listed_handle command server

end

/-! ## The limiter in front of the route -/

section
variable (env) in
/-- The global limiter, while operations fail. -/
def World.failingLimiter (world : World T) (arrival : Arrival) (plan : List Fate) :
    Except AppError Unit × Faulty (Server T) :=
  (rateLimitMiddleware env arrival.http).run failing { state := world.server, plan }

theorem aside_redis {command : RedisCommand} (other : ∀ jti, command.writes ≠ some (.revokedJti jti))
    (server : Server T) : Aside .reads server (handle (.redis command) server).2 where
  clock := rfl
  draws := le_rfl
  committed := rfl
  working := rfl
  blacklist jti := RedisCommand.execute_other (other jti) server.clock server.redis
  wellNumbered := id

/-- The command only counts. -/
def Command.Counts : Command T → Prop
  | .redis command => ∃ name, command.writes = some (.rateLimit name)
  | _ => False

omit [CommRing T] [LinearOrder T] in
theorem counts_rateLimitMiddleware (request : HttpRequest) :
    (rateLimitMiddleware env request).Every Command.Counts fun _ => True := by
  refine Every.tryCatch ?_ fun _ => Every.ite (fun _ => Every.throw _) fun _ => Every.pure trivial
  refine Every.sequence (Every.tryCatch ?_ fun _ => Every.ite (fun _ => Every.throw _)
    fun _ => Every.throw _) fun _ => Every.ite (fun _ => Every.throw _) fun _ => Every.pure trivial
  refine Every.sequence (Every.call ⟨_, rfl⟩ fun _ => trivial) fun count => ?_
  exact Every.ite (fun _ => Every.sequence (Every.call ⟨_, rfl⟩ fun _ => trivial) fun _ =>
    Every.pure trivial) fun _ => Every.pure trivial

theorem aside_failingLimiter (world : World T) (arrival : Arrival) (plan : List Fate) :
    Aside .reads world.server (world.failingLimiter env arrival plan).2.state := by
  have keeps : Keeps failing (fun faulty => Aside .reads world.server faulty.state)
      (rateLimitMiddleware env arrival.http) := by
    refine (counts_rateLimitMiddleware arrival.http).keeps_faulty fun command server counts aside =>
      aside.trans ?_
    cases command with
    | redis command =>
      obtain ⟨name, writes⟩ := counts
      exact aside_redis (fun jti => by simp [writes]) server
    | now | draw | view | write | commit | addTask => exact counts.elim
  exact keeps.final (.refl world.server)

end

/-! ## The retry -/

section
variable [FloorRing T] {world : World T} {claims : Claims} {row : Session T}

/-- The refresh token that an active session names, still in its lifetime. -/
structure World.Current (world : World T) (claims : Claims) (row : Session T) : Prop where
  live : claims.LiveRefresh world.clock
  stored : world.db.sessions.find row.sessionUuid = some row
  active : row.isActive = true
  session : claims.sid = some row.sessionUuid
  owner : row.userId = claims.sub
  named : row.refreshTokenId = claims.jti

variable (env) in
/-- What `POST /auth/refresh` does at an instant to come, past the limiter. -/
def World.retry (world : World T) (instant : T) (request : HttpRequest) :
    Except AppError (Reply T) × Server T :=
  (getDb (refresh env request)).run handle { world.server with clock := instant }

variable (env) in
/-- Until it expires the token is accepted whenever it is presented, and its session stays active. -/
def World.Honours (world : World T) (claims : Claims) (sid : Uuid) : Prop :=
  ∀ instant, world.clock ≤ instant → instant < (claims.exp : T) → ∀ request : HttpRequest,
    request.refreshToken = some (.signed claims) →
      (∃ reply, (world.retry env instant request).1 = .ok reply) ∧
        ∃ row, (world.retry env instant request).2.committed.sessions.find sid = some row ∧
          row.isActive = true

theorem unlisted_of_honours {sid : Uuid} (unexpired : world.clock < (claims.exp : T))
    (honours : world.Honours env claims sid) : ¬ world.server.Blacklisted claims.jti := by
  let request : HttpRequest := { refreshToken := some (.signed claims) }
  obtain ⟨answered, -⟩ := honours world.clock le_rfl unexpired request rfl
  obtain ⟨redeemed, presented, redeems⟩ := refresh_ok_iff.mp answered
  cases presented
  exact redeems.unlisted

theorem honours_of_unlisted (stored : world.db.sessions.find row.sessionUuid = some row)
    (active : row.isActive = true) (session : claims.sid = some row.sessionUuid)
    (owner : row.userId = claims.sub) (isRefresh : claims.type = .refresh)
    (unlisted : ¬ world.server.Blacklisted claims.jti) :
    world.Honours env claims row.sessionUuid := by
  intro instant later unexpired request presented
  let start : Server T := { world.server with clock := instant }
  have redeems : start.Redeems claims := by
    refine ⟨⟨isRefresh, unexpired⟩, ?_, fun sid same => ?_⟩
    · rw [Server.Blacklisted, Option.not_isSome_iff_eq_none] at unlisted ⊢
      exact ExpiringStore.lookup_lapsed later unlisted
    · rw [session] at same
      cases same
      exact ⟨row, stored, active, owner⟩
  obtain ⟨answered, followed⟩ := (run_refresh env start request).of_redeems presented redeems
  have left := followed row.sessionUuid session
  refine ⟨refresh_ok_iff.mpr ⟨claims, presented, redeems⟩, ?_⟩
  simp only [World.retry, run_getDb]
  rw [show ({ world.server with clock := instant } : Server T) = start from rfl]
  cases ran : (refresh env request).run handle start with
  | mk result final =>
    rw [ran] at answered left
    obtain ⟨reply, rfl⟩ := answered
    cases left
    refine ⟨rebound start.clock (start.draws + 1) row, ?_, active⟩
    refine (find_followed env start claims row.sessionUuid row.sessionUuid).trans ?_
    rw [if_pos rfl, show start.working.sessions.find row.sessionUuid = some row from stored]
    rfl

end

/-! ## What a failed refresh costs -/

section
variable [FloorRing T] {world : World T} {arrival : Arrival} {plan : List Fate} {claims : Claims}
  {row : Session T}

variable (env) in
/-- The token is not on the blacklist and does not get there: the limiter refuses the request, or
the route spares the token. -/
def World.KeepsToken (world : World T) (arrival : Arrival) (plan : List Fate) (claims : Claims) :
    Prop :=
  ¬ world.server.Blacklisted claims.jti ∧
    ((world.failingLimiter env arrival plan).1 = .ok () →
      SparesToken (world.failingLimiter env arrival plan).2 claims)

/-- Behind the limiter the route answers. -/
theorem failingRun_of_limiter (routed : arrival.route = .refresh) :
    world.failingRun env arrival plan =
      match world.failingLimiter env arrival plan with
      | (.ok (), limited) => (getDb (refresh env arrival.http)).run failing limited
      | (.error error, limited) => (.error error, limited) := by
  have dispatched : dispatch env arrival = refresh env arrival.http := by
    simp only [dispatch, routed]
  simp only [World.failingRun, serve, run_bind, dispatched, World.failingLimiter]
  cases (rateLimitMiddleware env arrival.http).run failing { state := world.server, plan } with
  | mk result limited => cases result <;> rfl

theorem honours_afterFailing_iff (current : world.Current claims row)
    (committed : (world.failingRun env arrival plan).2.state.committed = world.db)
    (clock : (world.failingRun env arrival plan).2.state.clock = world.clock) :
    (world.afterFailing env arrival plan).Honours env claims row.sessionUuid ↔
      ¬ (world.failingRun env arrival plan).2.state.Blacklisted claims.jti := by
  constructor
  · intro honours
    refine unlisted_of_honours ?_ honours
    rw [show (world.afterFailing env arrival plan).clock = world.clock from clock]
    exact current.live.unexpired
  · intro unlisted
    refine honours_of_unlisted ?_ current.active current.session current.owner
      current.live.isRefresh unlisted
    rw [show (world.afterFailing env arrival plan).db = world.db from committed]
    exact current.stored

/-- After a refresh that failed, the token and its session are good exactly when the token was
kept off the blacklist. -/
theorem failed_refresh_costs_nothing_iff [IsStrictOrderedRing T]
    (current : world.Current claims row) (routed : arrival.route = .refresh)
    (presented : arrival.http.refreshToken = some (.signed claims)) {error : AppError}
    (fails : (world.failingExchange env arrival plan).reply = .error error) :
    (world.afterFailing env arrival plan).Honours env claims row.sessionUuid ↔
      world.KeepsToken env arrival plan claims := by
  have aside : Aside .reads world.server (world.failingLimiter env arrival plan).2.state :=
    aside_failingLimiter world arrival plan
  have ran : world.failingRun env arrival plan = _ := failingRun_of_limiter routed
  have failed : (world.failingRun env arrival plan).1 = .error error := fails
  unfold World.KeepsToken
  cases passed : world.failingLimiter env arrival plan with
  | mk result limited =>
  rw [passed] at aside ran
  cases result with
  | error refused =>
    rw [honours_afterFailing_iff current (by rw [ran]; exact aside.committed)
      (by rw [ran]; exact aside.clock), ran]
    simpa using not_congr (aside.blacklisted claims.jti)
  | ok =>
    have live : claims.LiveRefresh limited.state.clock := aside.clock.symm ▸ current.live
    by_cases listed : world.server.Blacklisted claims.jti
    · -- what is listed stays listed, and the retry is a replay again
      refine iff_of_false (fun honours => ?_) fun keeps => keeps.1 listed
      have stays : (world.failingRun env arrival plan).2.state.Blacklisted claims.jti := by
        rw [ran]
        exact (listed_getDb arrival.http claims.jti).final ((aside.blacklisted _).mpr listed)
      have clock : (world.failingRun env arrival plan).2.state.clock = world.clock :=
        clock_failing (serve env arrival) _
      refine unlisted_of_honours ?_ honours stays
      rw [show (world.afterFailing env arrival plan).clock = world.clock from clock]
      exact current.live.unexpired
    · have unlisted : ¬ limited.state.Blacklisted claims.jti :=
        fun other => listed ((aside.blacklisted _).mp other)
      have exchanging : Exchanging limited claims (world.failingRun env arrival plan).2.state := by
        have triple : Triple failing (· = limited) (getDb (refresh env arrival.http)) _ _ :=
          exchanging_getDb presented live unlisted
        rw [ran] at failed ⊢
        exact triple.failed rfl (Prod.ext failed rfl)
      rw [honours_afterFailing_iff current (exchanging.committed.trans aside.committed)
        (exchanging.clock.trans aside.clock), exchanging.listed]
      simp [listed]

end

theorem current_of_alice : ∃ row, row.sessionUuid = 2 ∧ aliceRegistered.Current aliceRefresh row := by
  have stored : (aliceRegistered.db.sessions.find 2).any (fun row => row.isActive &&
      row.userId == aliceRefresh.sub && row.refreshTokenId == aliceRefresh.jti) := by
    decide +kernel
  obtain ⟨row, found, facts⟩ := (Option.any_eq_true _ _).mp stored
  simp only [Bool.and_eq_true, beq_iff_eq] at facts
  obtain ⟨⟨active, owner⟩, named⟩ := facts
  have key : row.sessionUuid = 2 := Table.find_key found
  refine ⟨row, key, ⟨rfl, by decide +kernel⟩, ?_, active, ?_, owner, named⟩
  · rw [key]
    exact found
  · rw [key]
    rfl

/-- The look at the blacklist fails, and Alice's token stays good. -/
theorem failed_look_costs_alice_nothing :
    (aliceRegistered.afterFailing demo (refreshWith aliceRefresh)
      [.works, .raises]).Honours demo aliceRefresh 2 := by
  obtain ⟨row, key, current⟩ := current_of_alice
  have keeps : aliceRegistered.KeepsToken demo (refreshWith aliceRefresh) [.works, .raises]
      aliceRefresh := ⟨by decide +kernel, fun _ => .inl (by decide +kernel)⟩
  obtain ⟨error, fails⟩ : ∃ error, (aliceRegistered.failingExchange demo (refreshWith aliceRefresh)
      [.works, .raises]).reply = .error error :=
    exists_error (by decide +kernel)
  rw [← key]
  exact (failed_refresh_costs_nothing_iff current rfl rfl fails).mpr keeps

/-- The flush of Alice's refresh fails. -/
def failedRefreshFlush : List Fate := List.replicate 4 .works ++ [.raises]

/-- Her token is taken for a replay from then on. -/
theorem failed_flush_costs_token :
    ¬ ∀ (world : World ℚ) (arrival : Arrival) (plan : List Fate) (claims : Claims)
      (row : Session ℚ) (error : AppError), (failingService demo).Reachable world →
      world.Current claims row → arrival.route = .refresh →
      arrival.http.refreshToken = some (.signed claims) →
      (world.failingExchange demo arrival plan).reply = .error error →
      (world.afterFailing demo arrival plan).Honours demo claims row.sessionUuid := by
  intro harmless
  obtain ⟨row, key, current⟩ := current_of_alice
  obtain ⟨error, fails⟩ : ∃ error, (aliceRegistered.failingExchange demo (refreshWith aliceRefresh)
      failedRefreshFlush).reply = .error error :=
    exists_error (by decide +kernel)
  have honours := harmless aliceRegistered (refreshWith aliceRefresh) failedRefreshFlush
    aliceRefresh row error (reachable_failing reachable_aliceRegistered) current rfl rfl fails
  exact unlisted_of_honours (by decide +kernel) honours (by decide +kernel)

end EnterpriseAuth
