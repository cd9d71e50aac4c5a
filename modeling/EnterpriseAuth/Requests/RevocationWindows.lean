import EnterpriseAuth.Api.Failures
import EnterpriseAuth.Requests.ConductOfRoutes
import EnterpriseAuth.Requests.SessionEffects

/-!
# The window of a revocation

A flag of Redis says that its session has ended.  `revoke` changes the row, sets the flag and leaves
the commit to the end of the request, so there is a window in which the flag is ahead of the
committed row.  The log of a run tells where that window lies: a statement has been made, a flag has
been set behind it, and nothing has been committed since.

`_expire` commits before it sets the flag, so wherever it fails the flags agree with the rows.
-/

namespace EnterpriseAuth

open Effects Program SessionService

variable {T : Type} {env : Environment T}

/-! ## Flags and rows -/

section
variable (server : Server T)

def Server.Flagged [LinearOrder T] (sid : Uuid) : Prop :=
  (server.redis.lookup server.clock (.sessionRevoked sid)).isSome

/-- Every flag stands for a session that has ended in the committed database. -/
def Server.FlagsAgree [LinearOrder T] : Prop :=
  ∀ sid, server.Flagged sid → server.committed.Ended sid

/-- Every flag stands for a session that has ended as the transaction sees it. -/
def Server.FlagsCovered [LinearOrder T] : Prop :=
  ∀ sid, server.Flagged sid → server.working.Ended sid

end

variable [CommRing T] [LinearOrder T]

section
variable {server : Server T}

/-- A command that writes no flag. -/
theorem flagged_redis {command : RedisCommand} {sid : Uuid}
    (other : command.writes ≠ some (.sessionRevoked sid)) :
    (handle (.redis command) server).2.Flagged sid ↔ server.Flagged sid := by
  simp only [handle, Server.Flagged,
    ExpiringStore.lookup_congr (RedisCommand.execute_other other server.clock server.redis)]

theorem covered_redis {command : RedisCommand}
    (other : ∀ sid, command.writes ≠ some (.sessionRevoked sid)) (covered : server.FlagsCovered) :
    (handle (.redis command) server).2.FlagsCovered :=
  fun sid flagged => covered sid ((flagged_redis (other sid)).mp flagged)

/-- A command that writes a flag flags no other session. -/
theorem flagged_of_writes {command : RedisCommand} {sid other : Uuid}
    (writes : command.writes = some (.sessionRevoked sid))
    (flagged : (handle (.redis command) server).2.Flagged other) :
    other = sid ∨ server.Flagged other := by
  by_cases same : other = sid
  · exact .inl same
  · have different : command.writes ≠ some (.sessionRevoked other) := by
      simpa [writes] using fun equal : sid = other => same equal.symm
    exact .inr ((flagged_redis different).mp flagged)

/-- The flag of a session that has ended. -/
theorem covered_setFlag {sid : Uuid} {ex : ℕ} (ended : server.working.Ended sid)
    (covered : server.FlagsCovered) :
    (handle (.redis (.set (.sessionRevoked sid) .flag ex)) server).2.FlagsCovered := by
  intro other flagged
  rcases flagged_of_writes rfl flagged with rfl | before
  · exact ended
  · exact covered other before

theorem agree_setFlag {sid : Uuid} {ex : ℕ} (ended : server.committed.Ended sid)
    (agree : server.FlagsAgree) :
    (handle (.redis (.set (.sessionRevoked sid) .flag ex)) server).2.FlagsAgree := by
  intro other flagged
  rcases flagged_of_writes rfl flagged with rfl | before
  · exact ended
  · exact agree other before

theorem covered_write {change : Database T → Except AppError (Database T)}
    (keeps : ∀ before after, change before = .ok after → before.KeepsEnded after)
    (covered : server.FlagsCovered) : (handle (.write change) server).2.FlagsCovered := by
  simp only [handle]
  split
  next working changed => exact fun sid flagged => keeps _ _ changed sid (covered sid flagged)
  next => exact covered

theorem agree_write (change : Database T → Except AppError (Database T))
    (agree : server.FlagsAgree) : (handle (.write change) server).2.FlagsAgree := by
  simp only [handle]
  split <;> exact agree

end

/-! ## The log -/

def Command.isCommit : Command T → Bool
  | .commit => true
  | _ => false

def Command.isStatement : Command T → Bool
  | .write _ => true
  | _ => false

/-- `SET session_revoked:<sid>` -/
def Command.setsFlag : Command T → Bool
  | .redis (.set (.sessionRevoked _) _ _) => true
  | _ => false

/-- A statement has been made since the last commit. -/
def unsaved : List (Command T) → Bool
  | [] => false
  | command :: log => !command.isCommit && (command.isStatement || unsaved log)

/-- A flag has been set behind a statement, and nothing has been committed since. -/
def exposed : List (Command T) → Bool
  | [] => false
  | command :: log => !command.isCommit && ((command.setsFlag && unsaved log) || exposed log)

abbrev LoggedServer (T : Type) := Logged (Command T) (Server T)

/-- The operations of a request fail, and those that take effect are logged. -/
abbrev loggedFailing : Handler (Command T) Command.Res AppError (Faulty (LoggedServer T)) :=
  handle.logged.faulty faultModel

section
variable (logged : Logged (Command T) (Server T))

/-- What is not saved is in the log. -/
def Effects.Logged.Saved : Prop :=
  logged.state.working = logged.state.committed ∨ unsaved logged.log = true

/-- A flag that is ahead of its row is in the log, with the statement that it is ahead of. -/
structure Effects.Logged.Tracked : Prop where
  covered : logged.state.FlagsCovered
  flags : logged.state.FlagsAgree ∨ exposed logged.log = true
  saved : logged.Saved

/-- No flag is ahead of its row. -/
structure Effects.Logged.Settled : Prop where
  covered : logged.state.FlagsCovered
  agree : logged.state.FlagsAgree
  saved : logged.Saved

end

variable {logged : LoggedServer T}

omit [CommRing T] in
theorem Effects.Logged.Settled.tracked (settled : logged.Settled) : logged.Tracked :=
  ⟨settled.covered, .inl settled.agree, settled.saved⟩

omit [CommRing T] in
theorem Effects.Logged.Tracked.settled (tracked : logged.Tracked) (window : exposed logged.log = false) :
    logged.Settled :=
  ⟨tracked.covered, tracked.flags.resolve_right (by simp [window]), tracked.saved⟩

theorem saved_logged (command : Command T) (saved : logged.Saved) :
    (handle.logged command logged).2.Saved := by
  cases command with
  | commit => exact .inl rfl
  | write change => exact .inr (by simp [Handler.logged, unsaved, Command.isCommit, Command.isStatement])
  | now | draw | view | addTask | redis =>
    refine saved.imp id fun older => ?_
    simpa [Handler.logged, unsaved, Command.isCommit, Command.isStatement] using older

omit [CommRing T] [LinearOrder T] in
/-- A window stays open until the next commit. -/
theorem exposed_cons {command : Command T} (notCommit : command.isCommit = false)
    {log : List (Command T)} (window : exposed log = true) : exposed (command :: log) = true := by
  simp [exposed, notCommit, window]

/-! ## Programs that set no flag -/

/-- All powers but that of writing flags. -/
def Powers.calm : Powers := ⟨True, False, True, True⟩

instance : Powers.calm.Commits := ⟨trivial⟩
instance : Powers.calm.Mail := ⟨trivial⟩
instance : Powers.calm.SecondFactor := ⟨trivial⟩

theorem covered_of_calm (command : Command T) (allowed : command.Allowed .calm) {server : Server T}
    (covered : server.FlagsCovered) : (handle command server).2.FlagsCovered := by
  cases command with
  | now | draw | view | addTask | commit => exact covered
  | redis command => exact covered_redis (allowed.resolve_left id) covered
  | write change =>
    exact covered_write (fun before after changed => (allowed before after changed).1) covered

theorem agree_of_calm (command : Command T) (allowed : command.Allowed .calm) {server : Server T}
    (covered : server.FlagsCovered) (agree : server.FlagsAgree) :
    (handle command server).2.FlagsAgree := by
  cases command with
  | now | draw | view | addTask => exact agree
  | commit => exact covered
  | redis command =>
    exact fun sid flagged => agree sid ((flagged_redis (allowed.resolve_left id sid)).mp flagged)
  | write change => exact agree_write change agree

theorem settled_of_calm (command : Command T) (allowed : command.Allowed .calm)
    (settled : logged.Settled) : (handle.logged command logged).2.Settled :=
  ⟨covered_of_calm command allowed settled.covered,
    agree_of_calm command allowed settled.covered settled.agree, saved_logged command settled.saved⟩

theorem tracked_of_calm (command : Command T) (allowed : command.Allowed .calm)
    (tracked : logged.Tracked) : (handle.logged command logged).2.Tracked := by
  refine ⟨covered_of_calm command allowed tracked.covered, ?_, saved_logged command tracked.saved⟩
  cases commits : command.isCommit with
  | false =>
    exact tracked.flags.imp (agree_of_calm command allowed tracked.covered) (exposed_cons commits)
  | true =>
    -- a commit brings the rows up to the flags
    cases command with
    | commit => exact .inl tracked.covered
    | _ => cases commits

/-- The flag of a session that has ended in the transaction. -/
theorem tracked_setFlag {sid : Uuid} {ex : ℕ} (ended : logged.state.working.Ended sid)
    (tracked : logged.Tracked) :
    (handle.logged (.redis (.set (.sessionRevoked sid) .flag ex)) logged).2.Tracked := by
  refine ⟨covered_setFlag ended tracked.covered, ?_, saved_logged _ tracked.saved⟩
  obtain agree | window := tracked.flags
  · obtain same | older := tracked.saved
    · exact .inl (agree_setFlag (same ▸ ended) agree)
    · exact .inr (by simp [Handler.logged, exposed, Command.isCommit, Command.setsFlag, older])
  · exact .inr (exposed_cons rfl window)

/-! ## How a request may fail -/

variable {α β : Type} {before : LoggedServer T → Prop} {program : App T α}
  {after : α → LoggedServer T → Prop}

/-- Flags and rows agree, or an operation failed in the window of a revocation. -/
def Aborted (error : AppError) (faulty : Faulty (LoggedServer T)) : Prop :=
  faulty.state.Settled ∨
    error.kind.isAuthError = false ∧ ∃ struck ∈ faulty.struck, exposed struck.log = true

/-- From `before`, the program returns in `after` or the request is aborted. -/
abbrev Survives (before : LoggedServer T → Prop) (program : App T α)
    (after : α → LoggedServer T → Prop) : Prop :=
  Triple loggedFailing (fun faulty => before faulty.state) program
    (fun value faulty => after value faulty.state) Aborted

/-- From `before`, the program returns in `after` or fails with flags and rows in agreement. -/
abbrev Stays (before : LoggedServer T → Prop) (program : App T α)
    (after : α → LoggedServer T → Prop) : Prop :=
  Triple loggedFailing (fun faulty => before faulty.state) program
    (fun value faulty => after value faulty.state) fun _ faulty => faulty.state.Settled

theorem Stays.survives (stays : Stays before program after) : Survives before program after :=
  stays.weaken (fun _ => id) (fun _ _ => id) fun _ _ => .inl

/-- A program that writes no flag. -/
theorem calm (program : App T α) [conducts : Conducts .calm program] :
    Stays Logged.Settled program fun _ => Logged.Settled :=
  conducts.every.keeps_faulty fun command _ => settled_of_calm command

/-- A single command around which flags and rows agree. -/
theorem stays_call {command : Command T} {after : command.Res → LoggedServer T → Prop}
    (works : ∀ logged, before logged → ∃ result, (handle command logged.state).1 = .ok result ∧
      after result (handle.logged command logged).2)
    (settled : ∀ logged, before logged →
      logged.Settled ∧ (handle.logged command logged).2.Settled) :
    Stays before (call command) after :=
  (Triple.faulty_call works settled).weaken (fun _ => id) (fun _ _ => id) fun _ _ fails => fails.2.2

/-- A single command during which the window is tracked. -/
theorem survives_call {command : Command T} {after : command.Res → LoggedServer T → Prop}
    (works : ∀ logged, before logged → ∃ result, (handle command logged.state).1 = .ok result ∧
      after result (handle.logged command logged).2)
    (tracked : ∀ logged, before logged →
      logged.Tracked ∧ (handle.logged command logged).2.Tracked) :
    Survives before (call command) after := by
  refine (Triple.faulty_call works tracked).weaken (fun _ => id) (fun _ _ => id) ?_
  rintro error faulty ⟨fails, struck, tracked⟩
  cases window : exposed faulty.state.log with
  | false => exact .inl (tracked.settled window)
  | true =>
    refine .inr ⟨?_, _, struck, window⟩
    -- the errors of Redis and of the database are none that a route takes for a refusal
    cases command <;> simp only [faultModel, Option.some.injEq, reduceCtorEq] at fails <;>
      rw [← fails] <;> rfl

/-- The log is tracked, and the transaction sees a database as described. -/
def Knows (holds : Database T → Prop) (logged : LoggedServer T) : Prop :=
  logged.Tracked ∧ holds logged.state.working

/-- Flags and rows agree, and the transaction sees a database as described. -/
def Rests (holds : Database T → Prop) (logged : LoggedServer T) : Prop :=
  logged.Settled ∧ holds logged.state.working

omit [CommRing T] in
theorem Rests.knows {holds : Database T → Prop} (rests : Rests holds logged) : Knows holds logged :=
  ⟨rests.1.tracked, rests.2⟩

section
variable {holds holdsAfter : Database T → Prop}

theorem stays_view :
    Stays Logged.Settled (view : App T (Database T)) fun db => Rests (· = db) :=
  stays_call (fun _ settled => ⟨_, rfl, settled_of_calm .view trivial settled, rfl⟩)
    fun _ settled => ⟨settled, settled_of_calm .view trivial settled⟩

theorem stays_now : Stays (Rests holds) (now : App T T) fun _ => Rests holds :=
  stays_call (fun _ rests => ⟨_, rfl, settled_of_calm .now trivial rests.1, rests.2⟩)
    fun _ rests => ⟨rests.1, settled_of_calm .now trivial rests.1⟩

/-- A statement that cannot fail of itself. -/
theorem stays_write {change : Database T → Except AppError (Database T)}
    (permits : Powers.calm.Permits change)
    (works : ∀ db, holds db → ∃ after, change db = .ok after ∧ holdsAfter after) :
    Stays (Rests holds) (write change) fun _ => Rests holdsAfter := by
  have settledAfter (logged : LoggedServer T) (settled : logged.Settled) :
      (handle.logged (.write change) logged).2.Settled :=
    settled_of_calm (.write change) permits.allowed settled
  apply stays_call
  · rintro logged ⟨settled, held⟩
    obtain ⟨after, changed, isAfter⟩ := works _ held
    refine ⟨(), by simp [handle, changed], settledAfter logged settled, ?_⟩
    simpa [Handler.logged, handle, changed] using isAfter
  · exact fun logged rests => ⟨rests.1, settledAfter logged rests.1⟩

theorem survives_now : Survives (Knows holds) (now : App T T) fun _ => Knows holds :=
  survives_call (fun _ knows => ⟨_, rfl, tracked_of_calm .now trivial knows.1, knows.2⟩)
    fun _ knows => ⟨knows.1, tracked_of_calm .now trivial knows.1⟩

/-- A command of Redis that cannot fail of itself and writes no flag. -/
theorem survives_redis {command : RedisCommand}
    (replies : ∀ (now : T) store, ∃ result, (command.execute now store).1 = .ok result)
    (other : ∀ sid, command.writes ≠ some (.sessionRevoked sid)) :
    Survives (Knows holds) (call (.redis command)) fun _ => Knows holds := by
  have tracked (logged : LoggedServer T) (knows : Knows holds logged) :
      (handle.logged (.redis command) logged).2.Tracked :=
    tracked_of_calm (.redis command) (.inr other) knows.1
  apply survives_call
  · intro logged knows
    obtain ⟨result, replied⟩ := replies logged.state.clock logged.state.redis
    exact ⟨result, replied, tracked logged knows, knows.2⟩
  · exact fun logged knows => ⟨knows.1, tracked logged knows⟩

theorem survives_setKey (key : Key) [unflagged : Conducts.Unflagged key] (value : RedisValue) {ex : ℕ}
    (positive : ex ≠ 0) : Survives (Knows holds) (setKey key value ex) fun _ => Knows holds := by
  apply survives_redis
  · exact fun now store => ⟨(), by simp [RedisCommand.execute, positive]⟩
  · exact fun sid same => unflagged.notFlag sid (Option.some.inj same)

theorem survives_deleteKey (key : Key) [unflagged : Conducts.Unflagged key] :
    Survives (Knows holds) (deleteKey key) fun _ => Knows holds := by
  apply survives_redis
  · exact fun now store => ⟨(), rfl⟩
  · exact fun sid same => unflagged.notFlag sid (Option.some.inj same)

/-- The flag of a session that has ended. -/
theorem survives_setFlag {sid : Uuid} {ex : ℕ} (positive : ex ≠ 0)
    (ended : ∀ db, holds db → db.Ended sid) :
    Survives (Knows holds) (setKey (.sessionRevoked sid) .flag ex) fun _ => Knows holds := by
  have tracked (logged : LoggedServer T) (knows : Knows holds logged) :
      (handle.logged (.redis (.set (.sessionRevoked sid) .flag ex)) logged).2.Tracked :=
    tracked_setFlag (ended _ knows.2) knows.1
  apply survives_call
  · intro logged knows
    exact ⟨(), by simp [handle, RedisCommand.execute, positive], tracked logged knows, knows.2⟩
  · exact fun logged knows => ⟨knows.1, tracked logged knows⟩

theorem survives_write {change : Database T → Except AppError (Database T)}
    (permits : Powers.calm.Permits change)
    (works : ∀ db, holds db → ∃ after, change db = .ok after ∧ holdsAfter after) :
    Survives (Knows holds) (write change) fun _ => Knows holdsAfter := by
  have tracked (logged : LoggedServer T) (knows : Knows holds logged) :
      (handle.logged (.write change) logged).2.Tracked :=
    tracked_of_calm (.write change) permits.allowed knows.1
  apply survives_call
  · intro logged knows
    obtain ⟨after, changed, isAfter⟩ := works _ knows.2
    refine ⟨(), by simp [handle, changed], tracked logged knows, ?_⟩
    simpa [Handler.logged, handle, changed] using isAfter
  · exact fun logged knows => ⟨knows.1, tracked logged knows⟩

/-- A commit closes the window. -/
theorem survives_commit :
    Survives Logged.Tracked (commit : App T Unit) fun _ => Logged.Settled := by
  apply survives_call
  · exact fun logged tracked => ⟨(), rfl, tracked.covered, tracked.covered, .inl rfl⟩
  · exact fun logged tracked => ⟨tracked, tracked_of_calm .commit trivial tracked⟩

end

/-! ## Expiry -/

section
variable {row : Session T}

omit [CommRing T] [LinearOrder T] in
theorem ended_ending (now : T) (reason : String) {db : Database T} (held : db.Holds row) :
    (db.ending row.sessionUuid now reason).Ended row.sessionUuid := by
  refine ⟨ended now reason row, ?_, rfl⟩
  have found := Table.find_modify db.sessions row.sessionUuid row.sessionUuid (ended now reason)
    fun _ => rfl
  rw [if_pos rfl, held.1] at found
  exact found

/-- The command only concerns Redis, and of the revocation flags only the given ones. -/
def Command.Caches (flags : Uuid → Prop) : Command T → Prop
  | .redis command => ∀ sid, command.writes = some (.sessionRevoked sid) → flags sid
  | _ => False

/-- Flags of sessions that have ended for good may be written at any time. -/
theorem stays_caching (flags : Uuid → Prop) (holds : Server T → Prop)
    (every : program.Every (Command.Caches flags) fun _ => True)
    (stable : ∀ server redis, holds server → holds { server with redis })
    (ended : ∀ server, holds server → ∀ sid, flags sid →
      server.working.Ended sid ∧ server.committed.Ended sid) :
    Stays (fun logged => logged.Settled ∧ holds logged.state) program
      fun _ logged => logged.Settled ∧ holds logged.state := by
  have keeps (command : Command T) (logged : LoggedServer T) (caches : command.Caches flags)
      (kept : logged.Settled ∧ holds logged.state) :
      (handle.logged command logged).2.Settled ∧ holds (handle.logged command logged).2.state := by
    obtain ⟨settled, held⟩ := kept
    cases command with
    | redis command =>
      refine ⟨?_, stable _ _ held⟩
      by_cases flag : ∃ sid, command.writes = some (.sessionRevoked sid)
      · obtain ⟨sid, writes⟩ := flag
        have both := ended logged.state held sid (caches sid writes)
        refine ⟨fun other flagged => ?_, fun other flagged => ?_, saved_logged _ settled.saved⟩
        · rcases flagged_of_writes writes flagged with rfl | before
          · exact both.1
          · exact settled.covered other before
        · rcases flagged_of_writes writes flagged with rfl | before
          · exact both.2
          · exact settled.agree other before
      · exact settled_of_calm (.redis command) (.inr (not_exists.mp flag)) settled
    | _ => exact caches.elim
  have kept : Keeps loggedFailing (fun faulty => faulty.state.Settled ∧ holds faulty.state.state)
      program := every.keeps_faulty keeps
  exact kept.weaken (fun _ => id) (fun _ _ => id) fun _ _ => And.left

/-- An expiry commits the end of the session before it sets the flag. -/
theorem stays_expire (row : Session T) (reason : String) :
    Stays (Rests (·.Holds row)) (expire env row reason) fun _ => Logged.Settled := by
  let gone := fun server : Server T =>
    server.working.Ended row.sessionUuid ∧ server.committed.Ended row.sessionUuid
  have write (now : T) : Stays (Rests (·.Holds row))
      (write (Database.updateSession row.sessionUuid (ended now reason) fun _ => rfl))
      fun _ => Rests (·.Ended row.sessionUuid) :=
    stays_write (.of_updateSession fun _ _ => rfl) fun db held =>
      ⟨_, updateSession_ended now reason held, ended_ending now reason held⟩
  have commit : Stays (Rests (·.Ended row.sessionUuid)) (commit : App T Unit)
      fun _ logged => logged.Settled ∧ gone logged.state :=
    stays_call
      (fun _ rests => ⟨_, rfl, settled_of_calm .commit trivial rests.1, rests.2, rests.2⟩)
      fun _ rests => ⟨rests.1, settled_of_calm .commit trivial rests.1⟩
  have clear : Stays (fun logged => logged.Settled ∧ gone logged.state)
      (clearCache env row.sessionUuid) fun _ logged => logged.Settled ∧ gone logged.state := by
    refine stays_caching (· = row.sessionUuid) gone ?_ (fun _ _ => id) ?_
    · refine Every.bind (Every.call (by simp [Command.Caches, RedisCommand.writes]) fun _ => trivial)
        fun _ _ => Every.bind (Every.call ?_ fun _ => trivial) fun _ _ => Every.call ?_ fun _ => trivial
      · simp [Command.Caches, RedisCommand.writes]
      · simp [Command.Caches, RedisCommand.writes, eq_comm]
    · rintro server holds sid rfl
      exact holds
  refine Triple.bind stays_now fun now => Triple.bind (write now) fun _ =>
    Triple.bind commit fun _ => ?_
  exact clear.weaken (fun _ => id) (fun _ _ => And.left) fun _ _ => id

/-- The row that a throttled activity update returns is stored. -/
theorem stays_touch (row : Session T) (now : T) :
    Stays (Rests (·.Holds row)) (touch env row now) fun row => Rests (·.Holds row) := by
  have quiet {α : Type} (program : App T α) (held : Session T)
      (every : program.Every (Command.Caches fun _ => False) fun _ => True) :
      Stays (Rests (·.Holds held)) program fun _ => Rests (·.Holds held) :=
    stays_caching _ (fun server => server.working.Holds held) every (fun _ _ => id)
      fun _ _ _ => False.elim
  have write : Stays (Rests (·.Holds row))
      (write (Database.updateSession row.sessionUuid (touched now) fun _ => rfl))
      fun _ => Rests (·.Holds (touched now row)) := by
    refine stays_write (.of_updateSession fun _ inactive => inactive) fun db held => ?_
    have found := Table.find_modify db.sessions row.sessionUuid row.sessionUuid (touched now)
      fun _ => rfl
    rw [if_pos rfl, held.1] at found
    exact ⟨_, by simp only [Database.updateSession, held.1]; rfl, found, held.2⟩
  simp only [touch]
  refine Triple.bind (quiet _ row ?_) fun throttled => Triple.ite (fun _ => Triple.pure fun _ => id)
    fun _ => Triple.bind write fun _ => Triple.bind (quiet _ (touched now row) ?_) fun _ =>
      Triple.bind (quiet _ (touched now row) ?_) fun _ => Triple.pure fun _ => id
  all_goals exact Every.call (by simp [Command.Caches, RedisCommand.writes]) fun _ => trivial

/-- What validation of a session comes to: the row that it returns is stored and active. -/
theorem stays_validateAndTouch (sessionUuid userId : Uuid) :
    Stays Logged.Settled (validateAndTouch env sessionUuid userId)
      fun row => Rests (·.Holds row) := by
  simp only [validateAndTouch, throw_bind]
  refine Triple.bind (calm (present (.sessionRevoked sessionUuid))) fun revoked => ?_
  refine Triple.ite (fun _ => Triple.throw fun _ => id) fun _ => ?_
  refine Triple.bind stays_view fun db => ?_
  cases found : db.sessions.find sessionUuid with
  | none => exact Triple.throw fun _ rests => rests.1
  | some row =>
    cases Table.find_key found
    refine Triple.ite (fun _ => Triple.throw fun _ rests => rests.1) fun valid => ?_
    rw [not_or, not_not, Bool.not_eq_true', Bool.not_eq_false] at valid
    have clock : Stays (Rests (· = db)) (now : App T T) fun _ => Rests (·.Holds row) :=
      stays_now.weaken (fun _ => id)
        (fun _ _ rests => ⟨rests.1, rests.2.symm ▸ ⟨found, valid.2⟩⟩) fun _ _ => id
    refine Triple.bind clock fun now => ?_
    refine Triple.ite (fun _ => ?_) fun _ => Triple.ite (fun _ => ?_) fun _ => ?_
    · exact Triple.bind (stays_expire row _) fun _ => Triple.throw fun _ => id
    · exact Triple.bind (stays_expire row _) fun _ => Triple.throw fun _ => id
    · exact stays_touch row now

theorem stays_getAuthContext (request : HttpRequest) :
    Stays Logged.Settled (getAuthContext env request) fun context logged =>
      logged.Settled ∧ ∀ row, context.session = some row → logged.state.working.Holds row := by
  simp only [getAuthContext, throw_bind]
  cases request.accessToken with
  | none => exact Triple.throw fun _ => id
  | some token =>
    refine Triple.bind (calm (TokenService.verifyAccess token)) fun claims => ?_
    refine Triple.bind stays_view fun db => ?_
    cases db.users.find claims.sub with
    | none => exact Triple.throw fun _ rests => rests.1
    | some user =>
      refine Triple.ite (fun _ => Triple.throw fun _ rests => rests.1) fun _ => ?_
      cases claims.sid with
      | none => exact Triple.pure fun _ rests => ⟨rests.1, by simp⟩
      | some sid =>
        refine Triple.bind ((stays_validateAndTouch sid user.id).weaken (fun _ rests => rests.1)
          (fun _ _ => id) fun _ _ => id) fun row => Triple.pure fun _ rests => ⟨rests.1, ?_⟩
        intro other same
        cases same
        exact rests.2

end

/-! ## Revocation -/

variable (env) in
theorem survives_clearCache {holds : Database T → Prop} {sid : Uuid}
    (ended : ∀ db, holds db → db.Ended sid) :
    Survives (Knows holds) (clearCache env sid) fun _ => Knows holds := by
  refine Triple.bind (survives_deleteKey _) fun _ => Triple.bind (survives_deleteKey _) fun _ => ?_
  exact survives_setFlag (by simp [env.settings.sessionAbsoluteExpireHours.pos.ne']) ended

section
variable {row : Session T} {rows : List (Session T)}

variable (env row rows) in
theorem survives_revoke (reason : String) :
    Survives (Knows (·.HoldsAll (row :: rows))) (revoke env row reason)
      fun _ => Knows (·.HoldsAll rows) := by
  have positive : TokenService.refreshTtlDays env true * 86400 ≠ 0 := by
    simp [TokenService.refreshTtlDays, env.settings.refreshTokenRememberMeDays.pos.ne']
  refine Triple.bind survives_now fun now => ?_
  have ending : Survives (Knows (·.HoldsAll (row :: rows)))
      (write (Database.updateSession row.sessionUuid (ended now reason) fun _ => rfl))
      fun _ => Knows fun db => db.HoldsAll rows ∧ db.Ended row.sessionUuid := by
    refine survives_write (.of_updateSession fun _ _ => rfl) fun db all => ?_
    have held := all.1 row List.mem_cons_self
    exact ⟨_, updateSession_ended now reason held, all.ending now reason,
      ended_ending now reason held⟩
  refine Triple.weaken (Triple.bind (survives_setKey _ _ positive) fun _ =>
    Triple.bind ending fun _ => survives_clearCache env fun db holds => holds.2)
    (fun _ holds => holds) (fun _ _ holds => ⟨holds.1, holds.2.1⟩) fun _ _ => id

variable (env) in
theorem survives_revokeEach (reason : String) :
    Survives (Knows (·.HoldsAll rows)) (revokeEach env reason rows) fun _ => Logged.Tracked := by
  induction rows with
  | nil => exact Triple.pure fun _ knows => knows.1
  | cons row rows inductionHypothesis =>
    exact Triple.bind (survives_revoke env row rows reason) fun _ => inductionHypothesis

/-- Revocation of a single row. -/
theorem survives_revoke_held (reason : String) :
    Survives (Rests (·.Holds row)) (revoke env row reason) fun _ => Logged.Tracked :=
  Triple.weaken (survives_revoke env row [] reason)
    (fun _ rests => ⟨rests.1.tracked, .single rests.2⟩) (fun _ _ knows => knows.1) fun _ _ => id

theorem survives_revokeAll (user : User T) (reason : String) :
    Survives Logged.Settled (revokeAll env user reason) fun _ => Logged.Tracked := by
  refine Triple.bind stays_view.survives fun db => ?_
  have revoked : Survives (Knows (·.HoldsAll (db.listActiveForUser user.id)))
      (revokeEach env reason (db.listActiveForUser user.id)) fun _ => Logged.Tracked :=
    survives_revokeEach env reason
  refine Triple.bind (revoked.weaken ?_ (fun _ _ => id) fun _ _ => id) fun _ =>
    Triple.pure fun _ => id
  rintro faulty ⟨settled, same⟩
  exact ⟨settled.tracked, same ▸ holdsAll_listActiveForUser _ user.id⟩

theorem survives_getOwned (user : User T) (sessionUuid : Uuid) :
    Survives Logged.Settled (getOwned user sessionUuid) fun row =>
      Rests fun db => db.sessions.find row.sessionUuid = some row := by
  refine Triple.bind stays_view.survives fun db => ?_
  cases found : db.sessions.find sessionUuid with
  | none => exact Triple.throw fun _ rests => .inl rests.1
  | some row =>
    refine Triple.ite (fun _ => Triple.throw fun _ rests => .inl rests.1) fun _ => Triple.pure ?_
    rintro faulty ⟨settled, same⟩
    cases Table.find_key found
    exact ⟨settled, same ▸ found⟩

theorem survives_revokeByUuid (user : User T) (sessionUuid : Uuid) (reason : String) :
    Survives Logged.Settled (revokeByUuid env user sessionUuid reason)
      fun _ => Logged.Tracked := by
  refine Triple.bind (survives_getOwned user sessionUuid) fun row => ?_
  refine Triple.ite (fun active => ?_) fun _ => Triple.pure fun _ rests => rests.1.tracked
  refine Triple.bind ((survives_revoke_held reason).weaken ?_ (fun _ _ => id) fun _ _ => id)
    fun _ => Triple.pure fun _ => id
  exact fun faulty rests => ⟨rests.1, rests.2, active⟩

/-- Where nothing was revoked, no window is open. -/
theorem survives_revokeBySid (sid : Uuid) (reason : String) :
    Survives Logged.Settled (revokeBySid env sid reason) fun revoked logged =>
      logged.Tracked ∧ (revoked = none → logged.Settled) := by
  refine Triple.bind stays_view.survives fun db => ?_
  cases found : db.sessions.find sid with
  | none => exact Triple.pure fun _ rests => ⟨rests.1.tracked, fun _ => rests.1⟩
  | some row =>
    refine Triple.ite (fun active => ?_) fun _ =>
      Triple.pure fun _ rests => ⟨rests.1.tracked, fun _ => rests.1⟩
    refine Triple.bind ((survives_revoke_held reason).weaken ?_ (fun _ _ => id) fun _ _ => id)
      fun _ => Triple.pure fun _ tracked => ⟨tracked, by simp⟩
    rintro faulty ⟨settled, same⟩
    cases Table.find_key found
    exact ⟨settled, same ▸ ⟨found, active⟩⟩

end

end EnterpriseAuth
