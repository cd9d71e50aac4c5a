import EnterpriseAuth.Guarantees.FailedRefresh
import EnterpriseAuth.Requests.ConductOfRoutes

/-!
# Errors roll back

A request that does not succeed leaves the committed database as it was, wherever it failed.  Two
functions commit in the middle of a request, the expiry of a session and the answer to a replayed
refresh token; nothing else is pending when they do, so that what they commit is the end of the
session that the presented token names.
-/

namespace EnterpriseAuth

open Effects Program SessionService

set_option synthInstance.maxSize 1000

variable {T : Type} {env : Environment T}

/-! ## What a failed request may leave -/

/-- At most a difference is made by the end of one active session, which is named. -/
def Database.AtMostEnds (named : Uuid → Prop) (before after : Database T) : Prop :=
  after = before ∨ ∃ row now reason, before.Holds row ∧ named row.sessionUuid ∧
    after = before.ending row.sessionUuid now reason

/-- What is true of the committed database. -/
def Server.Committed (holds : Database T → Prop) (server : Server T) : Prop := holds server.committed

/-- The databases as committed and as the transaction sees it. -/
structure Server.Shows (committed working : Database T) (server : Server T) : Prop where
  committed : server.committed = committed
  working : server.working = working

/-- The powers of a program that leaves the commit to the end of the request. -/
def Powers.uncommitted : Powers := ⟨False, True, True, True⟩

instance : Powers.uncommitted.Flags := ⟨trivial⟩
instance : Powers.uncommitted.Mail := ⟨trivial⟩
instance : Powers.uncommitted.SecondFactor := ⟨trivial⟩

variable [CommRing T] [LinearOrder T]

section
variable {α : Type} {db working : Database T} {named : Uuid → Prop}

/-- From `before`, the program returns in `after`, or it leaves the database as a failed request
may. -/
abbrev Leaves (named : Uuid → Prop) (db : Database T) (before : Server T → Prop) (program : App T α)
    (after : α → Server T → Prop) : Prop :=
  Triple failing (fun faulty => before faulty.state) program
    (fun value faulty => after value faulty.state)
    fun _ faulty => faulty.state.Committed (db.AtMostEnds named)

theorem keeps_shows {program : App T α} {returned : α → Prop}
    (reads : program.Every Command.Reads returned) :
    Keeps failing (fun faulty => faulty.state.Shows db working) program := by
  refine reads.keeps_faulty fun command server reads shows => ?_
  cases command with
  | write | commit => exact reads.elim
  | now | draw | redis | view | addTask => exact ⟨shows.committed, shows.working⟩

theorem leaves_returns {program : App T α} {returned : α → Prop}
    (reads : program.Every Command.Reads returned) :
    Leaves named db (Server.Shows db working) program
      fun value server => returned value ∧ server.Shows db working := by
  have returns : Triple failing (fun faulty => faulty.state.Shows db working) program
      (fun value _ => returned value) fun _ _ => True := reads.triple
  exact (returns.and (keeps_shows reads)).weaken (fun _ shows => ⟨shows, shows⟩) (fun _ _ => id)
    fun _ _ raised => .inl raised.2.committed

theorem leaves_reads {program : App T α} (reads : program.Every Command.Reads fun _ => True) :
    Leaves named db (Server.Shows db working) program fun _ => Server.Shows db working :=
  (leaves_returns reads).weaken (fun _ => id) (fun _ _ => And.right) fun _ _ => id

/-- Without a commit of its own a program leaves the committed database alone. -/
theorem keeps_committed (holds : Database T → Prop) (program : App T α)
    [conducts : Conducts .uncommitted program] :
    Keeps failing (fun faulty => faulty.state.Committed holds) program := by
  refine conducts.every.keeps_faulty fun command server allowed => ?_
  cases command with
  | commit => exact allowed.elim
  | write change =>
    simp only [handle]
    split <;> exact id
  | now | draw | redis | view | addTask => exact id

theorem leaves_uncommitted (program : App T α) [Conducts .uncommitted program] :
    Leaves named db (Server.Committed (· = db)) program fun _ => Server.Committed (· = db) :=
  (keeps_committed (· = db) program).weaken (fun _ => id) (fun _ _ => id) fun _ _ => .inl

/-- A command that does not fail of itself. -/
theorem leaves_command (command : Command T) {before : Server T → Prop}
    {after : command.Res → Server T → Prop}
    (works : ∀ server, before server → ∃ result, (handle command server).1 = .ok result ∧
      after result (handle command server).2)
    (left : ∀ server, before server → server.Committed (db.AtMostEnds named) ∧
      (handle command server).2.Committed (db.AtMostEnds named)) :
    Leaves named db before (call command) after :=
  (Triple.faulty_call works left).weaken (fun _ => id) (fun _ _ => id) fun _ _ raised => raised.2.2

theorem leaves_view :
    Leaves named db (Server.Shows db working) view
      fun value server => value = working ∧ server.Shows db working :=
  leaves_command .view (fun server shows => ⟨server.working, rfl, shows.working, shows⟩)
    fun _ shows => ⟨.inl shows.committed, .inl shows.committed⟩

/-- A statement that is executed changes what the transaction sees, and nothing else. -/
theorem leaves_write {change : Database T → Except AppError (Database T)} {changed : Database T}
    (succeeds : change working = .ok changed) :
    Leaves named db (Server.Shows db working) (write change) fun _ => Server.Shows db changed := by
  refine leaves_command (.write change) (fun server shows => ⟨(), ?_⟩) fun server shows => ?_
  · simp only [handle, shows.working, succeeds]
    exact ⟨trivial, shows.committed, rfl⟩
  · simp only [handle, shows.working, succeeds]
    exact ⟨.inl shows.committed, .inl shows.committed⟩

/-- A commit of what a failed request may leave. -/
theorem leaves_commit (may : db.AtMostEnds named working) :
    Leaves named db (Server.Shows db working) commit
      fun _ => Server.Committed (db.AtMostEnds named) := by
  have left (server : Server T) (shows : server.Shows db working) :
      (handle .commit server).2.Committed (db.AtMostEnds named) :=
    show db.AtMostEnds named server.working from shows.working ▸ may
  exact leaves_command .commit (fun server shows => ⟨(), rfl, left server shows⟩)
    fun server shows => ⟨.inl shows.committed, left server shows⟩

end

/-! ## The two commits in the middle of a request -/

section
variable {db : Database T} {row : Session T} {named : Uuid → Prop}

omit [CommRing T] [LinearOrder T] in
theorem reads_clearCache (sid : Uuid) :
    (clearCache env sid).Every Command.Reads fun _ => True :=
  Every.sequence (Every.call trivial fun _ => trivial) fun _ =>
    Every.sequence (Every.call trivial fun _ => trivial) fun _ => Every.call trivial fun _ => trivial

/-- The expiry of a session commits the end of that session alone. -/
theorem leaves_expire (held : db.Holds row) (isNamed : named row.sessionUuid) (reason : String) :
    Leaves named db (Server.Shows db db) (expire env row reason)
      fun _ => Server.Committed (db.AtMostEnds named) := by
  refine Triple.bind (leaves_reads (Every.call trivial fun _ => trivial)) fun now => ?_
  refine Triple.bind (leaves_write (updateSession_ended now reason held)) fun _ => ?_
  refine Triple.bind (leaves_commit (.inr ⟨row, now, reason, held, isNamed, rfl⟩)) fun _ => ?_
  exact keeps_committed (db.AtMostEnds named) (clearCache env row.sessionUuid)

/-- A session is validated without a commit, or it is found to have expired. -/
theorem leaves_validateAndTouch (sid userId : Uuid) (isNamed : named sid) :
    Leaves named db (Server.Shows db db) (validateAndTouch env sid userId)
      fun _ => Server.Committed (· = db) := by
  simp only [validateAndTouch, throw_bind]
  refine Triple.bind (leaves_reads (Every.call trivial fun _ => trivial)) fun revoked =>
    Triple.ite (fun _ => Triple.throw fun _ shows => .inl shows.committed) fun _ =>
      Triple.bind leaves_view fun value => ?_
  constructor
  rintro faulty ⟨rfl, shows⟩
  suffices rest : Leaves named value (Server.Shows value value) _
      fun _ => Server.Committed (· = value) from rest.outcome faulty shows
  cases found : value.sessions.find sid with
  | none => exact Triple.throw fun _ shows => .inl shows.committed
  | some row =>
    cases Table.find_key found
    refine Triple.ite (fun _ => Triple.throw fun _ shows => .inl shows.committed) fun valid => ?_
    have active : row.isActive = true := by
      simp only [not_or, Bool.not_eq_true', Bool.not_eq_false] at valid
      exact valid.2
    have expires (reason message : String) :
        Leaves named value (Server.Shows value value)
          (expire env row reason >>= fun _ => throw (.auth message) : App T (Session T))
          fun _ => Server.Committed (· = value) :=
      Triple.bind (leaves_expire ⟨found, active⟩ isNamed reason) fun _ => Triple.throw fun _ => id
    refine Triple.bind (leaves_reads (Every.call trivial fun _ => trivial)) fun now =>
      Triple.ite (fun _ => expires _ _) fun _ => Triple.ite (fun _ => expires _ _) fun _ => ?_
    exact (leaves_uncommitted (touch env row now)).weaken (fun _ shows => shows.committed)
      (fun _ _ => id) fun _ _ => id

theorem reads_verifyAccess (token : Token) :
    (TokenService.verifyAccess token : App T Claims).Every Command.Reads
      fun claims => token = .signed claims :=
  Every.tryCatch ((certain_decodeToken token .access).mono (fun _ => Command.Certain.reads)
    fun _ => id) fun _ => Every.ite (fun _ => Every.throw _) fun _ => Every.throw _

/-- Whoever is not let in has at most found the session of the token expired. -/
theorem leaves_getAuthContext {request : HttpRequest}
    (names : ∀ claims sid, request.accessToken = some (.signed claims) → claims.sid = some sid →
      named sid) :
    Leaves named db (Server.Shows db db) (getAuthContext env request)
      fun _ => Server.Committed (· = db) := by
  simp only [getAuthContext, throw_bind]
  cases presented : request.accessToken with
  | none => exact Triple.throw fun _ shows => .inl shows.committed
  | some token =>
    refine Triple.bind (leaves_returns (reads_verifyAccess token)) fun payload => ?_
    constructor
    rintro faulty ⟨rfl, shows⟩
    suffices rest : Leaves named db (Server.Shows db db) _
      fun _ => Server.Committed (· = db) from rest.outcome faulty shows
    refine Triple.bind leaves_view fun value => ?_
    cases value.users.find payload.sub with
    | none => exact Triple.throw fun _ holds => .inl holds.2.committed
    | some user =>
      refine Triple.ite (fun _ => Triple.throw fun _ holds => .inl holds.2.committed) fun _ => ?_
      cases session : payload.sid with
      | none => exact Triple.pure fun _ holds => holds.2.committed
      | some sid =>
        refine Triple.bind ((leaves_validateAndTouch sid user.id
          (names payload sid presented session)).weaken (fun _ holds => holds.2) (fun _ _ => id)
          fun _ _ => id) fun row => Triple.pure fun _ => id

/-- A revocation leaves its session ended and not committed. -/
theorem leaves_revokeBySid (sid : Uuid) (isNamed : named sid) (reason : String) :
    Leaves named db (Server.Shows db db) (revokeBySid env sid reason)
      fun _ server => ∃ working, db.AtMostEnds named working ∧ server.Shows db working := by
  refine Triple.bind leaves_view fun value => ?_
  constructor
  rintro faulty ⟨rfl, shows⟩
  suffices rest : Leaves named value (Server.Shows value value) _
    fun _ server => ∃ working, value.AtMostEnds named working ∧ server.Shows value working
    from rest.outcome faulty shows
  cases found : value.sessions.find sid with
  | none => exact Triple.pure fun _ shows => ⟨value, .inl rfl, shows⟩
  | some row =>
    cases Table.find_key found
    refine Triple.ite (fun active => ?_) fun _ => Triple.pure fun _ shows => ⟨value, .inl rfl, shows⟩
    have held : value.Holds row := ⟨found, active⟩
    have revoked : Leaves named value (Server.Shows value value) (revoke env row reason)
        fun _ server => ∃ working, value.AtMostEnds named working ∧ server.Shows value working := by
      refine Triple.bind (leaves_reads (Every.call trivial fun _ => trivial)) fun now => ?_
      refine Triple.bind (leaves_reads (Every.call trivial fun _ => trivial)) fun _ => ?_
      refine Triple.bind (leaves_write (updateSession_ended now reason held)) fun _ => ?_
      refine (leaves_reads (reads_clearCache row.sessionUuid)).weaken (fun _ => id) ?_ fun _ _ => id
      exact fun _ _ shows => ⟨_, .inr ⟨row, now, reason, held, isNamed, rfl⟩, shows⟩
    exact Triple.bind revoked fun _ => Triple.pure fun _ => id

/-- The answer to a replay commits the end of the session of the token. -/
theorem leaves_handleRefreshReplay {token : Token}
    (names : ∀ claims sid, token = .signed claims → claims.sid = some sid → named sid) :
    Leaves named db (Server.Shows db db) (handleRefreshReplay env token)
      fun _ => Server.Committed (db.AtMostEnds named) := by
  have decoded : (tryCatch (some <$> decodeToken token .refresh) fun _ => pure none :
      App T (Option Claims)).Every Command.Reads
        fun payload => ∀ claims ∈ payload, token = .signed claims := by
    refine Every.tryCatch (Every.map ?_) fun _ => Every.pure (by simp)
    exact (certain_decodeToken token .refresh).mono (fun _ => Command.Certain.reads) (by simp)
  refine Triple.bind (leaves_returns decoded) fun payload => ?_
  constructor
  rintro faulty ⟨signed, shows⟩
  suffices rest : Leaves named db (Server.Shows db db) _
    fun _ => Server.Committed (db.AtMostEnds named) from rest.outcome faulty shows
  cases session : payload.bind (·.sid) with
  | none => exact Triple.pure fun _ shows => .inl shows.committed
  | some sid =>
    obtain ⟨claims, decodes, holdsSid⟩ := Option.bind_eq_some_iff.mp session
    have isNamed : named sid := names claims sid (signed claims decodes) holdsSid
    refine Triple.bind (leaves_revokeBySid sid isNamed "refresh_replay") fun record => ?_
    refine Triple.ite (fun _ => ?_) fun _ => Triple.pure ?_
    · constructor
      rintro _ ⟨working, may, shows⟩
      exact (leaves_commit may).outcome _ shows
    · rintro _ ⟨working, may, shows⟩
      exact .inl shows.committed

end

/-! ## Requests -/

section
variable [FloorRing T] {db : Database T} {named : Uuid → Prop}

/-- A refresh commits nothing on its own account but the answer to a replay. -/
theorem leaves_refresh {request : HttpRequest}
    (names : ∀ claims sid, request.refreshToken = some (.signed claims) → claims.sid = some sid →
      named sid) :
    Leaves named db (Server.Shows db db) (refresh env request)
      fun _ => Server.Committed (· = db) := by
  cases presented : request.refreshToken with
  | none =>
    simp only [refresh, presented]
    exact Triple.throw fun _ shows => .inl shows.committed
  | some token =>
    simp only [refresh, presented]
    have rotated : Triple failing (fun faulty => faulty.state.Shows db db)
        (TokenService.rotate env token) (fun _ faulty => faulty.state.Committed (· = db))
        fun _ faulty => faulty.state.Shows db db :=
      (keeps_shows (reads_rotate token)).weaken (fun _ => id) (fun _ _ shows => shows.committed)
        fun _ _ => id
    refine Triple.bind (rotated.tryCatch fun error => Triple.ite (fun _ => ?_) fun _ =>
      Triple.throw fun _ shows => .inl shows.committed) fun result => ?_
    · exact Triple.bind (leaves_handleRefreshReplay fun claims sid signed =>
        names claims sid (signed ▸ presented)) fun _ => Triple.throw fun _ => id
    · obtain ⟨userId, sid, pair, refreshJti⟩ := result
      cases sid with
      | none => exact leaves_uncommitted _
      | some sid => exact leaves_uncommitted _

omit [CommRing T] [LinearOrder T] [FloorRing T] in
theorem reads_verifyCsrf (request : HttpRequest) :
    (verifyCsrf request : App T Unit).Every Command.Reads fun _ => True := by
  unfold verifyCsrf
  split
  · exact Every.ite (fun _ => Every.throw _) fun _ =>
      Every.ite (fun _ => Every.throw _) fun _ => Every.pure trivial
  · exact Every.throw _

omit [FloorRing T] in
theorem leaves_serveProtected {request : HttpRequest} (registry : String → Option Provider)
    (route : ProtectedRoute)
    (names : ∀ claims sid, request.accessToken = some (.signed claims) → claims.sid = some sid →
      named sid) :
    Leaves named db (Server.Shows db db) (serveProtected env registry request route)
      fun _ => Server.Committed (· = db) := by
  have served : Leaves named db (Server.Shows db db)
      (getAuthContext env request >>= fun context =>
        serveWithContext env registry request context route) fun _ => Server.Committed (· = db) := by
    refine Triple.bind (leaves_getAuthContext names) fun context => ?_
    have : Conducts .uncommitted (serveWithContext env registry request context route) :=
      conducts_serveWithContext env registry request context (fun _ => trivial) (fun _ => trivial)
        fun _ => trivial
    exact leaves_uncommitted _
  simp only [serveProtected]
  exact Triple.ite (fun _ => Triple.bind (leaves_reads (reads_verifyCsrf request)) fun _ => served)
    fun _ => served

/-- What a route has committed before the end of the request. -/
theorem leaves_dispatch (arrival : Arrival)
    (names : ∀ claims sid, arrival.ReliesOn claims → claims.sid = some sid → named sid) :
    Leaves named db (Server.Shows db db) (dispatch env arrival)
      fun _ => Server.Committed (· = db) := by
  have enters {program : App T (Reply T)} (leaves : Leaves named db (Server.Committed (· = db))
      program fun _ => Server.Committed (· = db)) : Leaves named db (Server.Shows db db) program
      fun _ => Server.Committed (· = db) :=
    leaves.weaken (fun _ shows => shows.committed) (fun _ _ => id) fun _ _ => id
  obtain ⟨http, route, registry⟩ := arrival
  cases route with
  | login route => exact enters (leaves_uncommitted (Reply.login <$> serveLogin env registry http route))
  | refresh => exact leaves_refresh fun claims sid presented => names claims sid (.refresh rfl presented)
  | logout => exact enters (leaves_uncommitted (Reply.page <$> logout env http))
  | openTo route => exact enters (leaves_uncommitted (Reply.page <$> serveOpen env registry http route))
  | withAccess route =>
    exact Triple.bind (leaves_serveProtected registry route fun claims sid presented =>
      names claims sid (.access route rfl presented)) fun _ => Triple.pure fun _ => id

/-- The commit at the end of the request comes after its answer. -/
theorem leaves_serve (arrival : Arrival)
    (names : ∀ claims sid, arrival.ReliesOn claims → claims.sid = some sid → named sid) :
    Leaves named db (Server.Shows db db) (serve env arrival) fun _ _ => True := by
  have limited : (rateLimitMiddleware env arrival.http).Every Command.Reads fun _ => True := by
    refine (counts_rateLimitMiddleware arrival.http).mono (fun command counts => ?_) fun _ => id
    cases command with
    | write | commit => exact counts.elim
    | now | draw | redis | view | addTask => trivial
  refine Triple.bind (leaves_reads limited) fun _ => ?_
  refine Triple.bind (leaves_dispatch arrival names) fun reply => ?_
  have closed : Leaves named db (Server.Committed (· = db)) commitAfterResponse fun _ _ => True :=
    (failing_commitAfterResponse (fun _ _ => trivial) fun _ _ => trivial).weaken (fun _ => id)
      (fun _ _ => id) fun _ _ => False.elim
  exact Triple.bind closed fun _ => Triple.pure fun _ _ => trivial

variable {world : World T} {arrival : Arrival} {plan : List Fate}

/-- The session of a token that the request relies on. -/
def Arrival.Names (arrival : Arrival) (sid : Uuid) : Prop :=
  ∃ claims, arrival.ReliesOn claims ∧ claims.sid = some sid

theorem atMostEnds_of_failing {error : AppError}
    (fails : (world.failingExchange env arrival plan).reply = .error error) :
    world.db.AtMostEnds arrival.Names (world.afterFailing env arrival plan).db := by
  have leaves : Leaves arrival.Names world.db (Server.Shows world.db world.db) (serve env arrival)
      fun _ _ => True :=
    leaves_serve arrival fun claims sid relies session => ⟨claims, relies, session⟩
  have ran : (serve env arrival).run failing { state := world.server, plan } =
      (.error error, (world.failingRun env arrival plan).2) := Prod.ext fails rfl
  exact leaves.failed ⟨rfl, rfl⟩ ran

/-- A request that ends in an error leaves the committed database as it was, but for the session of
the token that it relies on, which may have ended. -/
theorem error_leaves_database {error : AppError}
    (fails : (world.failingExchange env arrival plan).reply = .error error) :
    (world.afterFailing env arrival plan).db = world.db ∨
      ∃ claims sid row now reason, arrival.ReliesOn claims ∧ claims.sid = some sid ∧
        world.db.sessions.find sid = some row ∧ row.isActive = true ∧
        (world.afterFailing env arrival plan).db = { world.db with
          sessions := world.db.sessions.modify sid (ended now reason) fun _ => rfl } := by
  refine (atMostEnds_of_failing fails).imp id ?_
  rintro ⟨row, now, reason, held, ⟨claims, relies, session⟩, same⟩
  exact ⟨claims, row.sessionUuid, row, now, reason, relies, session, held.1, held.2, same⟩

/-- A request that fails of itself leaves all tables but the sessions as they were. -/
theorem sessions_of_error {error : AppError}
    (fails : (world.exchange env arrival).reply = .error error) :
    ∃ sessions, (world.exchange env arrival).after.committed = { world.db with sessions } := by
  have failed : (world.failingExchange env arrival []).reply = .error error := by
    rw [failingExchange_nil]
    exact fails
  have left := atMostEnds_of_failing failed
  rw [afterFailing_nil] at left
  rcases left with same | ⟨row, now, reason, -, -, same⟩
  · exact ⟨_, same⟩
  · exact ⟨_, same⟩

/-- The replay of Alice's refresh token is refused, and her session has ended. -/
theorem error_leaves_database_of_alice :
    (aliceRotated.afterFailing demo (refreshWith aliceRefresh) []).db = aliceRotated.db ∨
      ∃ claims sid row now reason, (refreshWith aliceRefresh).ReliesOn claims ∧
        claims.sid = some sid ∧ aliceRotated.db.sessions.find sid = some row ∧
        row.isActive = true ∧ (aliceRotated.afterFailing demo (refreshWith aliceRefresh) []).db =
          { aliceRotated.db with
            sessions := aliceRotated.db.sessions.modify sid (ended now reason) fun _ => rfl } := by
  obtain ⟨error, fails⟩ : ∃ error, (aliceRotated.failingExchange demo (refreshWith aliceRefresh)
      []).reply = .error error :=
    exists_error (by decide +kernel)
  exact error_leaves_database fails

end

end EnterpriseAuth
