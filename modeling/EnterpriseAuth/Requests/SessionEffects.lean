import EnterpriseAuth.Requests.Services

/-!
# What a request may do to sessions and to the blacklist

`Effect` lists, once, everything that a request does to the session rows and to the blacklist of
refresh tokens, apart from rotating a refresh token.  A run of a handler is a sequence of effects
(`Follows`), so an invariant of sessions has to be checked against the constructors of `Effect`
only.  `Permits` says which rows a request may create and which tokens it may blacklist on its own
account; all but the login routes and logout permit nothing.
-/

namespace EnterpriseAuth

open Effects Program SessionService

set_option synthInstance.maxSize 1000

/-! ## Rows that are there to be ended -/

section
open SessionService
variable {T : Type} {db : Database T} {row : Session T} {rows : List (Session T)}

/-- The row is stored as it was read, and active. -/
def Database.Holds (db : Database T) (row : Session T) : Prop :=
  db.sessions.find row.sessionUuid = some row ∧ row.isActive = true

/-- The rows are stored and active, and no two of them are the same. -/
def Database.HoldsAll (db : Database T) (rows : List (Session T)) : Prop :=
  (∀ row ∈ rows, db.Holds row) ∧ (rows.map Session.sessionUuid).Nodup

theorem Database.HoldsAll.single (held : db.Holds row) : db.HoldsAll [row] :=
  ⟨by simpa using held, by simp⟩

/-- The database in which the session has ended. -/
def Database.ending (db : Database T) (sid : Uuid) (now : T) (reason : String) : Database T :=
  { db with sessions := db.sessions.modify sid (ended now reason) fun _ => rfl }

theorem updateSession_ended (now : T) (reason : String) (held : db.Holds row) :
    Database.updateSession row.sessionUuid (ended now reason) (fun _ => rfl) db =
      .ok (db.ending row.sessionUuid now reason) := by
  simp only [Database.updateSession, held.1]
  rfl

/-- The other rows stay as they are. -/
theorem Database.HoldsAll.ending (all : db.HoldsAll (row :: rows)) (now : T) (reason : String) :
    (db.ending row.sessionUuid now reason).HoldsAll rows := by
  obtain ⟨held, distinct⟩ := all
  rw [List.map_cons, List.nodup_cons] at distinct
  refine ⟨fun other member => ?_, distinct.2⟩
  obtain ⟨found, active⟩ := held other (List.mem_cons_of_mem _ member)
  have different : other.sessionUuid ≠ row.sessionUuid := fun same =>
    distinct.1 (same ▸ List.mem_map_of_mem member)
  have elsewhere := Table.find_modify db.sessions row.sessionUuid other.sessionUuid
    (ended now reason) fun _ => rfl
  rw [if_neg different, found] at elsewhere
  exact ⟨elsewhere, active⟩

theorem holdsAll_listActiveForUser [LinearOrder T] (db : Database T) (userId : Uuid) :
    db.HoldsAll (db.listActiveForUser userId) := by
  have perm := List.perm_insertionSort
    (fun first second : Session T => second.lastActivityAt ≤ first.lastActivityAt)
    (db.sessions.rows.filter fun session => session.userId = userId && (!true || session.isActive))
  constructor
  · intro row member
    have stored := perm.mem_iff.mp member
    simp only [List.mem_filter, Bool.not_true, Bool.false_or, Bool.and_eq_true] at stored
    exact ⟨Table.find_of_mem stored.1, stored.2.2⟩
  · refine (perm.map Session.sessionUuid).nodup_iff.mpr ?_
    exact db.sessions.distinct.sublist (List.filter_sublist.map _)

end

variable {T : Type} (env : Environment T) [CommRing T] [LinearOrder T]

/-! ## Effects -/

def Server.withSessions (server : Server T) (sessions : Table (Session.sessionUuid (T := T))) :
    Server T :=
  { server with working := { server.working with sessions } }

/-- The change of a session row that keeps its key. -/
def Server.changeSession (server : Server T) (sid : Uuid) (change : Session T → Session T)
    (keeps : ∀ session, (change session).sessionUuid = session.sessionUuid) : Server T :=
  server.withSessions (server.working.sessions.modify sid change keeps)

def Server.blacklist (server : Server T) (jti : Uuid) (deadline : T) : Server T :=
  { server with redis := server.redis.put (.revokedJti jti) ⟨.flag, some deadline⟩ }

/-- The session is past its absolute or its idle deadline. -/
def Session.Lapsed (session : Session T) (now : T) : Prop :=
  session.expiresAt ≤ now ∨ session.lastActivityAt + (idleTimeoutSeconds env : T) < now

/-- The id and the refresh token of the session have been drawn. -/
def Session.Numbered (session : Session T) (draws : ℕ) : Prop :=
  session.sessionUuid < draws ∧ session.refreshTokenId < draws

/-- A row as it is first stored. -/
structure Session.Begins (session : Session T) (now : T) : Prop where
  active : session.isActive = true
  loginAt : session.loginAt = now
  lastActivityAt : session.lastActivityAt = now
  logoutAt : session.logoutAt = none
  logoutReason : session.logoutReason = none

structure Permits (T : Type) where
  creates : Session T → Prop
  /-- the rows that may be touched and ended -/
  writes : Session T → Prop
  blacklists : Uuid → Prop

def Permits.none : Permits T := ⟨fun _ => False, fun _ => False, fun _ => False⟩

structure Permits.Below (lower upper : Permits T) : Prop where
  creates : ∀ row, lower.creates row → upper.creates row
  writes : ∀ row, lower.writes row → upper.writes row
  blacklists : ∀ jti, lower.blacklists jti → upper.blacklists jti

/-- All rows of the user may be written. -/
class Permits.Covers (permits : Permits T) (userId : Uuid) : Prop where
  writes : ∀ row, row.userId = userId → permits.writes row

inductive Effect (permits : Permits T) : Server T → Server T → Prop
  | aside {before after : Server T} (aside : Aside .sessions before after) : Effect permits before after
  | commit (before : Server T) : Effect permits before { before with committed := before.working }
  | touch {before : Server T} {row : Session T}
    (found : before.working.sessions.find row.sessionUuid = some row) (active : row.isActive = true)
    (fresh : ¬ row.Lapsed env before.clock) (permitted : permits.writes row) :
    Effect permits before (before.changeSession row.sessionUuid (touched before.clock) fun _ => rfl)
  | finish {before : Server T} {row : Session T} (reason : String)
    (found : before.working.sessions.find row.sessionUuid = some row) (active : row.isActive = true)
    (permitted : permits.writes row) :
    Effect permits before
      (before.changeSession row.sessionUuid (ended before.clock reason) fun _ => rfl)
  /-- the refresh token of an active session goes on the blacklist -/
  | retire {before : Server T} {row : Session T} (deadline : T)
    (found : before.working.sessions.find row.sessionUuid = some row)
    (active : row.isActive = true) :
    Effect permits before (before.blacklist row.refreshTokenId deadline)
  | blacklist {before : Server T} {jti : Uuid} {deadline : T}
    (permitted : permits.blacklists jti) :
    Effect permits before (before.blacklist jti deadline)
  | create {before : Server T} {row : Session T} {sessions : Table Session.sessionUuid}
    (permitted : permits.creates row) (drawn : row.Numbered before.draws)
    (begins : row.Begins before.clock)
    (inserted : before.working.sessions.insert row = some sessions) :
    Effect permits before (before.withSessions sessions)

def Follows (permits : Permits T) : Server T → Server T → Prop :=
  Relation.ReflTransGen (Effect env permits)

variable {env} {permits : Permits T}

namespace Follows

theorem refl (server : Server T) : Follows env permits server server := Relation.ReflTransGen.refl

theorem trans {first second third : Server T} (left : Follows env permits first second)
    (right : Follows env permits second third) : Follows env permits first third :=
  Relation.ReflTransGen.trans left right

theorem single {before after : Server T} (effect : Effect env permits before after) :
    Follows env permits before after :=
  Relation.ReflTransGen.single effect

theorem tail {first second third : Server T} (left : Follows env permits first second)
    (effect : Effect env permits second third) : Follows env permits first third :=
  Relation.ReflTransGen.tail left effect

theorem mono {wider : Permits T} {before after : Server T}
    (follows : Follows env permits before after) (below : permits.Below wider) :
    Follows env wider before after := by
  refine Relation.ReflTransGen.mono ?_ _ _ follows
  intro first second effect
  cases effect with
  | aside aside => exact .aside aside
  | commit => exact .commit _
  | touch found active fresh permitted =>
    exact .touch found active fresh (below.writes _ permitted)
  | finish reason found active permitted =>
    exact .finish reason found active (below.writes _ permitted)
  | retire deadline found active => exact .retire deadline found active
  | blacklist permitted => exact .blacklist (below.blacklists _ permitted)
  | create permitted drawn begins inserted =>
    exact .create (below.creates _ permitted) drawn begins inserted

theorem invariant (holds : Server T → Prop) {before after : Server T}
    (follows : Follows env permits before after) (start : holds before)
    (keeps : ∀ first second, holds first → Effect env permits first second → holds second) :
    holds after := by
  induction follows with
  | refl => exact start
  | tail _ effect inductionHypothesis => exact keeps _ _ inductionHypothesis effect

theorem clock {before after : Server T} (follows : Follows env permits before after) :
    after.clock = before.clock := by
  refine invariant (fun server => server.clock = before.clock) follows rfl ?_
  intro first second same effect
  cases effect with
  | aside aside => exact aside.clock.trans same
  | _ => exact same

theorem draws {before after : Server T} (follows : Follows env permits before after) :
    before.draws ≤ after.draws := by
  refine invariant (fun server => before.draws ≤ server.draws) follows le_rfl ?_
  intro first second order effect
  cases effect with
  | aside aside => exact order.trans aside.draws
  | _ => exact order

end Follows

/-! ## Programs that follow -/

variable (env permits)

/-- Whatever the program is started on, its run is a sequence of permitted effects. -/
class Obeys {α : Type} (program : App T α) : Prop where
  keeps : ∀ start, Keeps handle (Follows env permits start) program

variable {env permits} {α β : Type}

namespace Obeys

theorem follows (program : App T α) [obeys : Obeys env permits program] (server : Server T) :
    Follows env permits server (program.run handle server).2 :=
  (obeys.keeps server).final (.refl server)

theorem of_run {program : App T α}
    (step : ∀ server, Follows env permits server (program.run handle server).2) :
    Obeys env permits program where
  keeps _ := Keeps.of_final fun server follows => follows.trans (step server)

instance (priority := low) of_within {program : App T α} [Within .sessions program] :
    Obeys env permits program :=
  of_run fun server => .single (.aside (Within.aside _ program server))

instance bind {program : App T α} {rest : α → App T β} [first : Obeys env permits program]
    [second : ∀ value, Obeys env permits (rest value)] : Obeys env permits (program >>= rest) :=
  ⟨fun start => Keeps.bind (first.keeps start) fun value => (second value).keeps start⟩

instance map {transform : α → β} {program : App T α} [first : Obeys env permits program] :
    Obeys env permits (transform <$> program) :=
  ⟨fun start => Keeps.bind (first.keeps start) fun value => Keeps.pure (transform value)⟩

instance tryCatch {program : App T α} {recover : AppError → App T α}
    [first : Obeys env permits program] [second : ∀ error, Obeys env permits (recover error)] :
    Obeys env permits (MonadExcept.tryCatch program recover) :=
  ⟨fun start => Keeps.tryCatch (first.keeps start) fun error => (second error).keeps start⟩

instance ite {condition : Prop} [Decidable condition] {first second : App T α}
    [Obeys env permits first] [Obeys env permits second] :
    Obeys env permits (if condition then first else second) := by
  split <;> infer_instance

/-- A run that is known to return a value follows. -/
theorem of_exact {program : App T α} [obeys : Obeys env permits program] {server final : Server T}
    {result : Except AppError α} (ran : program.run handle server = (result, final)) :
    Follows env permits server final := by
  have follows := obeys.follows program server
  rwa [ran] at follows

instance commit : Obeys env permits (EnterpriseAuth.commit : App T Unit) :=
  of_run fun server => by rw [run_commit]; exact .single (.commit server)

instance commitAfterResponse :
    Obeys env permits (EnterpriseAuth.commitAfterResponse : App T Unit) := by
  unfold EnterpriseAuth.commitAfterResponse; infer_instance

instance getDb {program : App T α} [Obeys env permits program] :
    Obeys env permits (EnterpriseAuth.getDb program) := by
  unfold EnterpriseAuth.getDb; infer_instance

end Obeys

/-! ## Writes on session rows -/

section
variable (env) (server : Server T)

/-- `_clear_cache` on the server. -/
def Server.clearCache (sid : Uuid) : Server T :=
  { server with
    redis := ((server.redis.remove (.sessionActive sid)).remove (.sessionTouch sid)).put
      (.sessionRevoked sid)
      ⟨.flag, some (server.clock + (env.settings.sessionAbsoluteExpireHours * 3600 : ℕ))⟩ }

/-- `_set_active` on the server. -/
def Server.setActive (sid : Uuid) : Server T :=
  { server with
    redis := server.redis.put (.sessionActive sid)
      ⟨.flag, some (server.clock + (idleTimeoutSeconds env : ℕ))⟩ }

@[simp] theorem run_clearCache (sid : Uuid) :
    (clearCache env sid).run handle server = (.ok (), server.clearCache env sid) := by
  have positive : env.settings.sessionAbsoluteExpireHours.val * 3600 ≠ 0 := by
    simp [env.settings.sessionAbsoluteExpireHours.pos.ne']
  simp only [clearCache, run_bind, run_deleteKey, run_setKey_of_pos _ _ _ positive]
  rfl

@[simp] theorem run_setActive (sid : Uuid) :
    (setActive env sid).run handle server = (.ok (), server.setActive env sid) := by
  have positive : idleTimeoutSeconds env ≠ 0 := by
    simp [idleTimeoutSeconds, env.settings.sessionIdleTimeoutMinutes.pos.ne']
  simp only [setActive, run_setKey_of_pos _ _ _ positive]
  rfl

@[simp] theorem run_revokeJti (jti : Uuid) :
    (TokenService.revokeJti env jti).run handle server =
      (.ok (), server.blacklist jti
        (server.clock + (TokenService.refreshTtlDays env true * 86400 : ℕ))) := by
  have positive : TokenService.refreshTtlDays env true * 86400 ≠ 0 := by
    simp [TokenService.refreshTtlDays, env.settings.refreshTokenRememberMeDays.pos.ne']
  simp only [TokenService.revokeJti, run_setKey_of_pos _ _ _ positive]
  rfl

instance (sid : Uuid) {frame : Frame T} : Within frame (clearCache env sid) := by
  unfold clearCache; infer_instance

instance (sid : Uuid) {frame : Frame T} : Within frame (setActive env sid) := by
  unfold setActive; infer_instance

theorem aside_clearCache (frame : Frame T) (sid : Uuid) :
    Aside frame server (server.clearCache env sid) := by
  simpa using Within.aside frame (clearCache env sid) server

theorem aside_setActive (frame : Frame T) (sid : Uuid) :
    Aside frame server (server.setActive env sid) := by
  simpa using Within.aside frame (setActive env sid) server

theorem run_updateSession {sid : Uuid} {row : Session T} (change : Session T → Session T)
    (keeps : ∀ session, (change session).sessionUuid = session.sessionUuid)
    (found : server.working.sessions.find sid = some row) :
    (write (Database.updateSession sid change keeps)).run handle server =
      (.ok (), server.changeSession sid change keeps) := by
  simp only [run_write, Database.updateSession, found]
  rfl

/-- An activity update that is not throttled, on the server. -/
def Server.touch (row : Session T) : Server T :=
  let changed := server.changeSession row.sessionUuid (touched server.clock) fun _ => rfl
  Server.setActive env
    { changed with
      redis := changed.redis.put (.sessionTouch row.sessionUuid)
        ⟨.flag, some (server.clock + (env.settings.sessionActivityThrottleSeconds : ℕ))⟩ }
    row.sessionUuid

theorem run_touch {row : Session T}
    (found : server.working.sessions.find row.sessionUuid = some row) :
    (touch env row server.clock).run handle server =
      if (server.redis.lookup server.clock (.sessionTouch row.sessionUuid)).isSome then
        (.ok row, server)
      else (.ok (touched server.clock row), server.touch env row) := by
  have positive : env.settings.sessionActivityThrottleSeconds.val ≠ 0 :=
    env.settings.sessionActivityThrottleSeconds.pos.ne'
  simp only [touch, run_bind, run_present, run_ite,
    run_updateSession server (touched server.clock) (fun _ => rfl) found,
    run_setKey_of_pos _ _ _ positive, run_setActive, run_pure]
  rfl

/-- An expiry, on the server: it is committed at once. -/
def Server.expire (row : Session T) (reason : String) : Server T :=
  let changed := server.changeSession row.sessionUuid (ended server.clock reason) fun _ => rfl
  ({ changed with committed := changed.working } : Server T).clearCache env row.sessionUuid

theorem run_expire {row : Session T} (reason : String)
    (found : server.working.sessions.find row.sessionUuid = some row) :
    (expire env row reason).run handle server = (.ok (), server.expire env row reason) := by
  simp only [expire, run_bind, run_now,
    run_updateSession server (ended server.clock reason) (fun _ => rfl) found, run_commit,
    run_clearCache]
  rfl

/-- A revocation, on the server. -/
def Server.revoke (row : Session T) (reason : String) : Server T :=
  ((server.blacklist row.refreshTokenId
      (server.clock + (TokenService.refreshTtlDays env true * 86400 : ℕ))).changeSession
    row.sessionUuid (ended server.clock reason) fun _ => rfl).clearCache env row.sessionUuid

theorem run_revoke {row : Session T} (reason : String)
    (found : server.working.sessions.find row.sessionUuid = some row) :
    (revoke env row reason).run handle server = (.ok (), server.revoke env row reason) := by
  have found' (deadline : T) : (server.blacklist row.refreshTokenId deadline).working.sessions.find
      row.sessionUuid = some row := found
  simp only [revoke, run_bind, run_now, run_revokeJti,
    run_updateSession _ (ended server.clock reason) (fun _ => rfl) (found' _),
    run_clearCache]
  rfl

omit [CommRing T] [LinearOrder T] in
theorem find_changeSession (sid other : Uuid) (change : Session T → Session T) (keeps) :
    (server.changeSession sid change keeps).working.sessions.find other =
      if other = sid then (server.working.sessions.find other).map change
      else server.working.sessions.find other :=
  Table.find_modify _ _ _ _ keeps

omit [LinearOrder T] in
theorem find_revoke (row : Session T) (reason : String) (other : Uuid) :
    (server.revoke env row reason).working.sessions.find other =
      if other = row.sessionUuid then
        (server.working.sessions.find other).map (ended server.clock reason)
      else server.working.sessions.find other :=
  Table.find_modify _ _ _ (ended server.clock reason) fun _ => rfl

end

/-! ## Session functions follow -/

section
variable {server : Server T} {row : Session T}

theorem follows_revoke (reason : String)
    (found : server.working.sessions.find row.sessionUuid = some row)
    (active : row.isActive = true) (permitted : permits.writes row) :
    Follows env permits server (server.revoke env row reason) := by
  have retired : Follows env permits server (server.blacklist row.refreshTokenId
      (server.clock + (TokenService.refreshTtlDays env true * 86400 : ℕ))) :=
    .single (.retire _ found active)
  have finished := retired.tail (.finish reason found active permitted)
  exact finished.tail (.aside (aside_clearCache env _ _ row.sessionUuid))

theorem follows_expire (reason : String)
    (found : server.working.sessions.find row.sessionUuid = some row)
    (active : row.isActive = true) (permitted : permits.writes row) :
    Follows env permits server (server.expire env row reason) := by
  have finished : Follows env permits server _ := .single (.finish reason found active permitted)
  have committed := finished.tail (.commit _)
  exact committed.tail (.aside (aside_clearCache env _ _ row.sessionUuid))

theorem follows_touch (found : server.working.sessions.find row.sessionUuid = some row)
    (active : row.isActive = true) (fresh : ¬ row.Lapsed env server.clock)
    (permitted : permits.writes row) :
    Follows env permits server (server.touch env row) := by
  have changed : Follows env permits server _ := .single (.touch found active fresh permitted)
  refine changed.tail (.aside ?_)
  refine Aside.trans ?_ (aside_setActive env _ _ row.sessionUuid)
  exact ⟨rfl, le_rfl, rfl, rfl, fun jti => by simp [ExpiringStore.put], id⟩

/-- The row is stored and active. -/
def Server.Active (server : Server T) (row : Session T) : Prop :=
  server.working.sessions.find row.sessionUuid = some row ∧ row.isActive = true

omit [LinearOrder T] in
theorem Server.Active.touch (active : server.Active row) :
    (Server.touch env server row).Active (touched server.clock row) := by
  refine ⟨?_, active.2⟩
  have found := find_changeSession server row.sessionUuid row.sessionUuid (touched server.clock)
    fun _ => rfl
  rw [if_pos rfl, active.1] at found
  exact found

variable {start : Server T} {failed : AppError → Server T → Prop}

theorem triple_expire (reason : String) (permitted : permits.writes row) :
    Triple handle (fun server => Follows env permits start server ∧ server.Active row)
      (expire env row reason) (fun _ => Follows env permits start) failed :=
  Triple.returns (fun server holds => run_expire env server reason holds.2.1)
    fun _ holds => holds.1.trans (follows_expire reason holds.2.1 holds.2.2 permitted)

/-- What validation of a session does, and the row it returns. -/
theorem triple_validateAndTouch (sessionUuid userId : Uuid) [covers : permits.Covers userId] :
    Triple handle (Follows env permits start) (validateAndTouch env sessionUuid userId)
      (fun row server => Follows env permits start server ∧ server.Active row ∧ row.userId = userId)
      (fun _ => Follows env permits start) := by
  simp only [validateAndTouch, throw_bind]
  refine Triple.bind (Triple.read (run_present · _)) fun revoked => ?_
  refine Triple.ite (fun _ => Triple.throw fun _ reads => reads.1) fun _ => ?_
  refine Triple.bind (Triple.read run_view) fun db => ?_
  split
  next => exact Triple.throw fun _ reads => reads.1.1
  next row found =>
    cases Table.find_key found
    refine Triple.ite (fun _ => Triple.throw fun _ reads => reads.1.1) fun valid => ?_
    rw [not_or, not_not, Bool.not_eq_true', Bool.not_eq_false] at valid
    have permitted : permits.writes row := covers.writes row valid.1
    refine Triple.bind (Triple.read run_now) fun now => ?_
    -- both deadlines lead to _expire, which commits before the error
    refine Triple.ite (fun _ => ?_) fun unexpired => Triple.ite (fun _ => ?_) fun recent => ?_
    · refine Triple.bind ((triple_expire _ permitted).weaken ?_ (fun _ _ => id) fun _ _ => id) fun _ =>
        Triple.throw fun _ => id
      exact fun server reads => ⟨reads.1.1.1, by rwa [← reads.1.2], valid.2⟩
    · refine Triple.bind ((triple_expire _ permitted).weaken ?_ (fun _ _ => id) fun _ _ => id) fun _ =>
        Triple.throw fun _ => id
      exact fun server reads => ⟨reads.1.1.1, by rwa [← reads.1.2], valid.2⟩
    · have fresh : ¬ row.Lapsed env now := not_or.mpr ⟨unexpired, recent⟩
      constructor
      rintro server ⟨⟨⟨follows, -⟩, rfl⟩, rfl⟩
      have active : server.Active row := ⟨found, valid.2⟩
      rw [run_touch env server active.1]
      cases (server.redis.lookup server.clock (.sessionTouch row.sessionUuid)).isSome with
      | true => exact ⟨follows, active, valid.1⟩
      | false =>
        exact ⟨follows.trans (follows_touch active.1 active.2 fresh permitted), active.touch, valid.1⟩

/-- The rows are stored and active, and no two of them are the same. -/
def Server.AllActive (server : Server T) (rows : List (Session T)) : Prop :=
  (∀ row ∈ rows, server.Active row) ∧ (rows.map Session.sessionUuid).Nodup

omit [LinearOrder T] in
theorem Server.AllActive.revoke {rows : List (Session T)}
    (active : server.AllActive (row :: rows)) (reason : String) :
    (Server.revoke env server row reason).AllActive rows :=
  Database.HoldsAll.ending active server.clock reason

variable (env) in
/-- Ending an active session that is allowed keeps the property. -/
def RevocationKeeps (reason : String) (allowed : Session T → Prop) (kept : Server T → Prop) : Prop :=
  ∀ server row, kept server → server.Active row → allowed row → kept (server.revoke env row reason)

theorem follows_revocation (reason : String) :
    RevocationKeeps env reason permits.writes (Follows env permits start) :=
  fun _ _ follows active permitted =>
    follows.trans (follows_revoke reason active.1 active.2 permitted)

omit [CommRing T] in
theorem allActive_listActiveForUser (userId : Uuid) :
    server.AllActive (server.working.listActiveForUser userId) :=
  holdsAll_listActiveForUser server.working userId

omit [CommRing T] in
theorem owner_of_mem_listActiveForUser {db : Database T} {userId : Uuid} {row : Session T}
    (member : row ∈ db.listActiveForUser userId) : row.userId = userId := by
  have stored := (List.perm_insertionSort _ _).mem_iff.mp member
  rw [List.mem_filter, Bool.and_eq_true, decide_eq_true_eq] at stored
  exact stored.2.1

theorem keeps_getOwned {kept : Server T → Prop} (user : User T) (sessionUuid : Uuid) :
    Triple handle kept (getOwned user sessionUuid)
      (fun row server => kept server ∧
        server.working.sessions.find row.sessionUuid = some row ∧ row.userId = user.id)
      (fun _ => kept) := by
  unfold getOwned
  refine Triple.bind (Triple.read run_view) fun db => ?_
  split
  · exact Triple.throw fun _ reads => reads.1
  next row found =>
    refine Triple.ite (fun _ => Triple.throw fun _ reads => reads.1) fun owned => Triple.pure ?_
    rintro server ⟨holds, rfl⟩
    cases Table.find_key found
    exact ⟨holds, found, not_not.mp owned⟩

namespace RevocationKeeps

variable {reason : String} {allowed : Session T → Prop} {kept : Server T → Prop}

theorem revoke (keeps : RevocationKeeps env reason allowed kept) (permitted : allowed row) :
    Triple handle (fun server => kept server ∧ server.Active row) (revoke env row reason)
      (fun _ => kept) failed :=
  Triple.returns (fun server holds => run_revoke env server reason holds.2.1)
    fun server holds => keeps server row holds.1 holds.2 permitted

theorem revokeEach (keeps : RevocationKeeps env reason allowed kept) (rows : List (Session T))
    (permitted : ∀ row ∈ rows, allowed row) :
    Triple handle (fun server => kept server ∧ server.AllActive rows) (revokeEach env reason rows)
      (fun _ => kept) failed := by
  induction rows with
  | nil => exact Triple.pure fun _ holds => holds.1
  | cons row rows inductionHypothesis =>
    refine Triple.bind (Triple.returns (fun server holds =>
      run_revoke env server reason (holds.2.1 row (List.mem_cons_self)).1) ?_)
      fun _ => inductionHypothesis fun other member => permitted other (List.mem_cons_of_mem _ member)
    rintro server ⟨holds, active⟩
    exact ⟨keeps server row holds (active.1 row List.mem_cons_self) (permitted row List.mem_cons_self),
      active.revoke reason⟩

theorem revokeAll (keeps : RevocationKeeps env reason allowed kept) (user : User T)
    (permitted : ∀ row, row.userId = user.id → allowed row) :
    Keeps handle kept (revokeAll env user reason) := by
  unfold SessionService.revokeAll
  refine Triple.bind (Triple.read run_view) fun db => Triple.bind ?_ fun _ => Triple.pure fun _ => id
  refine (keeps.revokeEach _ fun row member =>
    permitted row (owner_of_mem_listActiveForUser member)).weaken ?_ (fun _ _ => id) fun _ _ => id
  rintro server ⟨holds, rfl⟩
  exact ⟨holds, allActive_listActiveForUser user.id⟩

theorem revokeByUuid (keeps : RevocationKeeps env reason allowed kept) (user : User T)
    (sessionUuid : Uuid) (permitted : ∀ row, row.userId = user.id → allowed row) :
    Keeps handle kept (revokeByUuid env user sessionUuid reason) := by
  simp only [SessionService.revokeByUuid]
  refine Triple.bind (keeps_getOwned user sessionUuid) fun record =>
    Triple.ite (fun active => ?_) fun _ => Triple.pure fun _ holds => holds.1
  have revoked : Triple handle
      (fun server => kept server ∧
        server.working.sessions.find record.sessionUuid = some record ∧ record.userId = user.id)
      (SessionService.revoke env record reason) (fun _ => kept) (fun _ => kept) := by
    constructor
    rintro server ⟨holds, found, owner⟩
    exact (keeps.revoke (permitted record owner)).outcome server ⟨holds, found, active⟩
  exact Triple.bind revoked fun _ => Triple.pure fun _ => id

end RevocationKeeps

instance (user : User T) (reason : String) [covers : permits.Covers user.id] :
    Obeys env permits (revokeAll env user reason) where
  keeps _ := (follows_revocation reason).revokeAll user covers.writes

instance (user : User T) (sessionUuid : Uuid) (reason : String) [covers : permits.Covers user.id] :
    Obeys env permits (revokeByUuid env user sessionUuid reason) where
  keeps _ := (follows_revocation reason).revokeByUuid user sessionUuid covers.writes

end

/-! ## Handlers follow -/

/-- The session that authentication hands to the route belongs to the user, is stored and active. -/
def AuthContext.Live (context : AuthContext T) (server : Server T) : Prop :=
  ∀ session, context.session = some session →
    server.Active session ∧ session.userId = context.user.id

/-- A request may write the sessions of the user whose access token it shows. -/
def Permits.owned (request : HttpRequest) : Permits T where
  creates _ := False
  writes row := ∃ claims, request.accessToken = some (.signed claims) ∧ row.userId = claims.sub
  blacklists _ := False

/-- The context belongs to the user whose access token the request shows. -/
def AuthContext.ShownBy (context : AuthContext T) (request : HttpRequest) : Prop :=
  ∃ claims, request.accessToken = some (.signed claims) ∧ context.user.id = claims.sub

omit [CommRing T] [LinearOrder T] in
theorem AuthContext.ShownBy.covers {context : AuthContext T} {request : HttpRequest}
    (shown : context.ShownBy request) : (Permits.owned (T := T) request).Covers context.user.id := by
  obtain ⟨claims, presented, owner⟩ := shown
  exact ⟨fun row same => ⟨claims, presented, same.trans owner⟩⟩

theorem triple_getAuthContext (start : Server T) (request : HttpRequest) :
    Triple handle (Follows env (.owned request) start) (getAuthContext env request)
      (fun context server => Follows env (.owned request) start server ∧ context.Live server ∧
        context.ShownBy request)
      (fun _ => Follows env (.owned request) start) := by
  simp only [getAuthContext, throw_bind]
  split
  next => exact Triple.throw fun _ => id
  next token presented =>
    have verified : Triple handle (Follows env (.owned request) start)
        (TokenService.verifyAccess token)
        (fun claims server => Follows env (.owned request) start server ∧ token = .signed claims)
        (fun _ => Follows env (.owned request) start) := by
      constructor
      intro server follows
      split
      next claims final ran =>
        obtain ⟨rfl, signed, -⟩ := verifyAccess_ok ran
        exact ⟨follows, signed⟩
      next error final ran =>
        exact follows.tail (.aside (Within.of_exact .sessions ran))
    refine Triple.bind verified fun claims => Triple.bind (Triple.read run_view) fun db => ?_
    split
    next => exact Triple.throw fun _ reads => reads.1.1
    next user found =>
      have owner : user.id = claims.sub := Table.find_key found
      refine Triple.ite (fun _ => Triple.throw fun _ reads => reads.1.1) fun _ => ?_
      split
      next =>
        refine Triple.pure ?_
        rintro server ⟨⟨follows, rfl⟩, -⟩
        refine ⟨follows, ?_, claims, presented, owner⟩
        intro session same
        cases same
      -- only a token with a session reaches validate_and_touch
      next sid session =>
        constructor
        rintro server ⟨⟨follows, rfl⟩, -⟩
        have shown : AuthContext.ShownBy (T := T) ⟨user, none⟩ request := ⟨claims, presented, owner⟩
        have := shown.covers
        refine Triple.outcome (Triple.bind (triple_validateAndTouch sid user.id) fun row =>
          Triple.pure ?_) server follows
        rintro server ⟨follows, active, owned⟩
        exact ⟨follows, fun session same => by cases same; exact ⟨active, owned⟩, shown⟩

end EnterpriseAuth
