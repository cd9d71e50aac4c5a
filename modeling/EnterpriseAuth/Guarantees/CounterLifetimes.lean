import EnterpriseAuth.Api.Failures
import EnterpriseAuth.Requests.LockoutWindows
import EnterpriseAuth.Guarantees.Scenario

/-!
# Lifetimes of the counters

`hit` and `record_failure` create a counter with one command of Redis and give it its deadline with
the next, once and for all.  A counter that misses its deadline keeps existing, so everything rests
on no fault and no cancellation falling between the two commands: then every counter has a deadline
in every reachable state, whatever else fails.
-/

namespace EnterpriseAuth

open Effects Program RateLimiter

variable {T : Type}

/-! ## Calls -/

inductive LimiterCall where
  | hit (key : String) (limit windowSeconds : ℕ)
  | recordFailure (identifier : String) (ip : Option String)
  | clearFailures (identifier : String) (ip : Option String)

/-- `ratelimit:*` and `failcount:*` -/
def Key.isCounter : Key → Bool
  | .rateLimit _ | .failcount _ => true
  | _ => false

section
variable (env : Environment T)

def LimiterCall.program : LimiterCall → App T Unit
  | .hit key limit windowSeconds => RateLimiter.hit key limit windowSeconds
  | .recordFailure identifier ip => RateLimiter.recordFailure env identifier ip
  | .clearFailures identifier ip => RateLimiter.clearFailures env identifier ip

/-- The counter that the call increments. -/
def LimiterCall.counter : LimiterCall → Option Key
  | .hit key _ _ => some (.rateLimit key)
  | .recordFailure identifier ip => some (failcountKey env identifier ip)
  | .clearFailures .. => none

/-- The failure that the call reports. -/
def LimiterCall.failure (now : T) : LimiterCall → List (String × T)
  | .recordFailure identifier ip => [(subject env identifier ip, now)]
  | .hit .. | .clearFailures .. => []

end

/-! ## Runs of calls -/

structure LimiterRun (T : Type) where
  server : Server T
  /-- the subjects and instants of the reported failures, the latest first -/
  failures : List (String × T)

inductive LimiterEvent (T : Type) where
  | tick (instant : T)
  /-- a call during which commands fail as planned, cancelled after `cut` of them -/
  | calls (call : LimiterCall) (plan : List Fate) (cut : Option ℕ)

section
variable [CommRing T] [LinearOrder T] (env : Environment T)

def LimiterRun.called (run : LimiterRun T) (call : LimiterCall) (plan : List Fate)
    (cut : Option ℕ) : LimiterRun T where
  server := ((call.program env).leaves (handle.faulty redisFaults) cut
    { state := run.server, plan }).state
  failures := call.failure env run.server.clock ++ run.failures

inductive LimiterRun.Step : LimiterRun T → LimiterEvent T → LimiterRun T → Prop
  | tick {run : LimiterRun T} {instant : T} (later : run.server.clock ≤ instant) :
    Step run (.tick instant) { run with server := { run.server with clock := instant } }
  | calls {run : LimiterRun T} (call : LimiterCall) (plan : List Fate) (cut : Option ℕ) :
    Step run (.calls call plan cut) (run.called env call plan cut)

/-- The calls of the rate limiter, from an empty store. -/
def limiterRuns : System (LimiterRun T) (LimiterEvent T) where
  start run := run.server.redis = ∅ ∧ run.failures = []
  step := LimiterRun.Step env

/-- What the counters promise in a state of a run. -/
structure LimiterRun.Forgets (run : LimiterRun T) : Prop where
  /-- Every counter has a finite lifetime. -/
  finite : ∀ key entry, key.isCounter = true → run.server.redis key = some entry →
    entry.deadline.isSome
  /-- No client is refused forever. -/
  accepts : ∀ key, ∃ bound, ∀ instant, bound ≤ instant → ∀ limit windowSeconds, 0 < limit →
    ((hit key limit windowSeconds : App T Unit).run handle
      { run.server with clock := instant }).1 = .ok ()
  /-- Failures that are older than the window no longer count. -/
  recent : ∀ subject count,
    run.server.redis.lookup run.server.clock (.failcount subject) = some (.count count) →
    count ≤ run.failures.countP fun failure =>
      failure.1 = subject ∧ run.server.clock < failure.2 + lockout env

end

/-- The increment does not take place, or the deadline follows on it. -/
def Armed (plan : List Fate) (cut : Option ℕ) : Prop :=
  cut = some 0 ∨ plan.headD .works = .raises ∨
    plan.headD .works = .works ∧ cut ≠ some 1 ∧ plan.tail.headD .works ≠ .raises

/-- No counter is created without its deadline. -/
def LimiterEvent.Arms [LinearOrder T] (env : Environment T) (run : LimiterRun T) :
    LimiterEvent T → Prop
  | .tick _ => True
  | .calls call plan cut => ∀ key, call.counter env = some key →
    run.server.redis.lookup run.server.clock key = none → Armed plan cut

/-! ## Counters in the store -/

section
variable [CommRing T] [LinearOrder T] (env : Environment T)

/-- A failure that a counter with the deadline may stand for. -/
def countsFor (subject : String) (deadline : T) (failure : String × T) : Bool :=
  failure.1 = subject && deadline ≤ failure.2 + lockout env

structure Counters (now : T) (failures : List (String × T)) (store : RedisStore T) : Prop where
  timed : ∀ key entry, key.isCounter = true → store key = some entry →
    ∃ count deadline, 0 < count ∧ entry = ⟨.count count, some deadline⟩
  recent : ∀ subject count deadline,
    store (.failcount subject) = some ⟨.count count, some deadline⟩ →
    deadline ≤ now + lockout env ∧ count ≤ failures.countP (countsFor env subject deadline)

/-- The command creates no counter and prolongs none. -/
def Command.CountsNothing : Command T → Prop
  | .redis (.incr _) | .redis (.expire ..) => False
  | .redis (.set key _ _) => key.isCounter = false
  | _ => True

variable {env} {now : T} {failures fresh : List (String × T)} {store : RedisStore T} {key : Key}

namespace Counters

theorem empty (now : T) (failures : List (String × T)) : Counters env now failures ∅ where
  timed _ _ _ stored := nomatch stored
  recent _ _ _ stored := nomatch stored

theorem later [IsStrictOrderedRing T] (counters : Counters env now failures store) {instant : T}
    (order : now ≤ instant) : Counters env instant failures store where
  timed := counters.timed
  recent subject count deadline stored := by
    obtain ⟨inTime, few⟩ := counters.recent subject count deadline stored
    exact ⟨inTime.trans (add_le_add_left order (lockout env)), few⟩

theorem report (counters : Counters env now failures store) (fresh : List (String × T)) :
    Counters env now (fresh ++ failures) store where
  timed := counters.timed
  recent subject count deadline stored := by
    obtain ⟨inTime, few⟩ := counters.recent subject count deadline stored
    rw [List.countP_append]
    exact ⟨inTime, by omega⟩

theorem remove (counters : Counters env now failures store) (key : Key) :
    Counters env now failures (store.remove key) := by
  have former (other : Key) (entry : Entry RedisValue T) (stored : store.remove key other = some entry) :
      store other = some entry := by
    simp only [ExpiringStore.remove] at stored
    split at stored
    · cases stored
    · exact stored
  exact ⟨fun other entry isCounter stored => counters.timed other entry isCounter (former _ _ stored),
    fun subject count deadline stored => counters.recent subject count deadline (former _ _ stored)⟩

theorem put_other (counters : Counters env now failures store) {key : Key}
    (other : key.isCounter = false) (entry : Entry RedisValue T) :
    Counters env now failures (store.put key entry) := by
  have former (counter : Key) (isCounter : counter.isCounter = true) :
      store.put key entry counter = store counter := by
    refine if_neg fun same => ?_
    rw [same, other] at isCounter
    cases isCounter
  exact ⟨fun counter found isCounter stored =>
      counters.timed counter found isCounter (by rwa [former counter isCounter] at stored),
    fun subject count deadline stored =>
      counters.recent subject count deadline (by rwa [former (.failcount subject) rfl] at stored)⟩

/-- A counter is written with a count and a deadline that stand for failures of its subject. -/
theorem put (counters : Counters env now failures store) {count : ℕ} {deadline : T}
    (positive : 0 < count)
    (stands : ∀ subject, key = .failcount subject → deadline ≤ now + lockout env ∧
      count ≤ failures.countP (countsFor env subject deadline)) :
    Counters env now failures (store.put key ⟨.count count, some deadline⟩) where
  timed other entry isCounter stored := by
    simp only [ExpiringStore.put] at stored
    split at stored
    · cases stored
      exact ⟨count, deadline, positive, rfl⟩
    · exact counters.timed other entry isCounter stored
  recent subject other otherDeadline stored := by
    simp only [ExpiringStore.put] at stored
    split at stored
    next same =>
      cases stored
      exact stands subject same.symm
    next => exact counters.recent subject other otherDeadline stored

/-- A counter that exists and has its deadline is incremented. -/
theorem incr (counters : Counters env now failures store) (isCounter : key.isCounter = true)
    {value : RedisValue} (live : store.lookup now key = some value)
    (reported : ∀ subject, key = .failcount subject → (subject, now) ∈ fresh) :
    ∃ count deadline, count ≠ 0 ∧
      (RedisCommand.incr key).execute now store =
        (.ok (count + 1), store.put key ⟨.count (count + 1), some deadline⟩) ∧
      Counters env now (fresh ++ failures) (store.put key ⟨.count (count + 1), some deadline⟩) := by
  cases stored : store key with
  | none => simp [ExpiringStore.lookup, stored] at live
  | some entry =>
    obtain ⟨count, deadline, positive, rfl⟩ := counters.timed key entry isCounter stored
    have inTime : now < deadline := by
      by_contra lapsed
      simp [ExpiringStore.lookup, stored, lapsed] at live
    have found : store.lookup now key = some (.count count) := by
      simp [ExpiringStore.lookup, stored, inTime]
    have same : store.deadlineAt now key = some deadline := by
      simp [ExpiringStore.deadlineAt, stored, inTime]
    refine ⟨count, deadline, positive.ne', by simp only [RedisCommand.execute, found, same], ?_⟩
    refine (counters.report fresh).put (Nat.succ_pos _) fun subject isFailcount => ?_
    obtain ⟨before, few⟩ := counters.recent subject count deadline (isFailcount ▸ stored)
    have counted : 0 < fresh.countP (countsFor env subject deadline) :=
      List.countP_pos_iff.mpr ⟨_, reported subject isFailcount, by simpa [countsFor] using before⟩
    rw [List.countP_append]
    exact ⟨before, by omega⟩

/-- A counter is created together with its deadline. -/
theorem create (counters : Counters env now failures store) (key : Key) (seconds : ℕ)
    (reported : ∀ subject, key = .failcount subject → (subject, now) ∈ fresh ∧
      seconds = env.settings.lockoutSeconds) :
    Counters env now (fresh ++ failures) (store.put key ⟨.count 1, some (now + seconds)⟩) := by
  refine (counters.report fresh).put Nat.one_pos fun subject isFailcount => ?_
  obtain ⟨member, same⟩ := reported subject isFailcount
  have counted : 0 < fresh.countP (countsFor env subject (now + seconds)) :=
    List.countP_pos_iff.mpr ⟨_, member, by simp [countsFor, lockout, same]⟩
  rw [List.countP_append]
  exact ⟨by rw [same], by omega⟩

end Counters

/-! ## One call -/

variable (env) in
/-- The counters are in order at the instant, whatever faults have struck. -/
def CountersOf (now : T) (failures : List (String × T)) (faulty : Faulty (Server T)) : Prop :=
  faulty.state.clock = now ∧ Counters env now failures faulty.state.redis

theorem counters_handle {command : Command T} {server : Server T}
    (harmless : command.CountsNothing)
    (holds : server.clock = now ∧ Counters env now failures server.redis) :
    (handle command server).2.clock = now ∧
      Counters env now failures (handle command server).2.redis := by
  obtain ⟨clock, counters⟩ := holds
  cases command with
  | now | draw | view | commit | addTask => exact ⟨clock, counters⟩
  | write change =>
    simp only [handle]
    split <;> exact ⟨clock, counters⟩
  | redis command =>
    cases command with
    | present | get => exact ⟨clock, counters⟩
    | set key value ex =>
      simp only [handle, RedisCommand.execute]
      split
      · exact ⟨clock, counters⟩
      · exact ⟨clock, counters.put_other harmless _⟩
    | delete key => exact ⟨clock, counters.remove key⟩
    | incr | expire => exact absurd harmless id

theorem counters_leaves {α : Type} {program : App T α}
    (harmless : program.Every Command.CountsNothing fun _ => True) (cut : Option ℕ)
    {faulty : Faulty (Server T)} (holds : CountersOf env now failures faulty) :
    CountersOf env now failures (program.leaves (handle.faulty redisFaults) cut faulty) := by
  refine harmless.keeps_leaves (fun command faulty allowed holds => ?_) cut holds
  obtain ⟨plan, works⟩ | ⟨error, after, plan, -, fails, left⟩ :=
    faulty_cases handle redisFaults command faulty
  · rw [works]
    exact counters_handle allowed holds
  · rw [fails]
    cases left with
    | inl same => exact same ▸ holds
    | inr effect => exact effect.2 ▸ counters_handle allowed holds

/-- The program counts under the key first, and sets the deadline after the first count. -/
structure CountsFirst {α : Type} (key : Key) (seconds : ℕ) (program : App T α) : Prop where
  shape : ∃ next after, program = .perform (.redis (.incr key)) next ∧
    (∀ error, (next (.error error)).Every Command.CountsNothing fun _ => True) ∧
    (∀ count : ℕ, count ≠ 1 → (next (.ok count)).Every Command.CountsNothing fun _ => True) ∧
    next (.ok (1 : ℕ)) = .perform (.redis (.expire key seconds)) after ∧
    ∀ reply, (after reply).Every Command.CountsNothing fun _ => True

abbrev Harmless {α : Type} (program : App T α) : Prop :=
  program.Every Command.CountsNothing fun _ => True

namespace CountsFirst

variable {α β : Type} {seconds : ℕ}

omit [CommRing T] [LinearOrder T] in
theorem of_incr {rest : ℕ → App T α} (harmless : ∀ count, Harmless (rest count)) :
    CountsFirst key seconds (do
      let count ← incrKey key
      if count = 1 then expireKey key seconds
      rest count) := by
  refine ⟨_, _, rfl, fun _ => trivial, fun count notFirst => ?_, rfl, fun reply => ?_⟩
  · change Harmless (if count = 1 then _ else rest count)
    rw [if_neg notFirst]
    exact harmless count
  · cases reply with
    | ok => exact harmless 1
    | error => trivial

omit [CommRing T] [LinearOrder T] in
theorem bind {program : App T α} {rest : α → App T β} (counts : CountsFirst key seconds program)
    (harmless : ∀ value, Harmless (rest value)) : CountsFirst key seconds (program >>= rest) := by
  obtain ⟨next, after, rfl, failed, further, first, then'⟩ := counts
  refine ⟨_, fun reply => after reply >>= rest, rfl, fun error => ?_, fun count notFirst => ?_, ?_,
    fun reply => ?_⟩
  · exact (failed error).sequence harmless
  · exact (further count notFirst).sequence harmless
  · exact congrArg (· >>= rest) first
  · exact (then' reply).sequence harmless

omit [CommRing T] [LinearOrder T] in
theorem tryCatch {program : App T α} {recover : AppError → App T α}
    (counts : CountsFirst key seconds program) (harmless : ∀ error, Harmless (recover error)) :
    CountsFirst key seconds (MonadExcept.tryCatch program recover) := by
  obtain ⟨next, after, rfl, failed, further, first, then'⟩ := counts
  refine ⟨_, fun reply => MonadExcept.tryCatch (after reply) recover, rfl, fun error => ?_,
    fun count notFirst => ?_, ?_, fun reply => ?_⟩
  · exact (failed error).tryCatch harmless
  · exact (further count notFirst).tryCatch harmless
  · exact congrArg (MonadExcept.tryCatch · recover) first
  · exact (then' reply).tryCatch harmless

/-- The counters after a call of the program, if it does not create a counter without deadline. -/
theorem counters {program : App T α} {faulty : Faulty (Server T)} {cut : Option ℕ}
    (counts : CountsFirst key seconds program) (isCounter : key.isCounter = true)
    (reported : ∀ subject, key = .failcount subject → (subject, now) ∈ fresh ∧
      seconds = env.settings.lockoutSeconds)
    (holds : CountersOf env now failures faulty)
    (armed : faulty.state.redis.lookup now key = none → Armed faulty.plan cut) :
    CountersOf env now (fresh ++ failures)
      (program.leaves (handle.faulty redisFaults) cut faulty) := by
  obtain ⟨next, after, rfl, failed, further, first, then'⟩ := counts
  obtain ⟨clock, counters⟩ := holds
  by_cases cancelled : cut = some 0
  · subst cancelled
    exact ⟨clock, counters.report fresh⟩
  rw [leaves_perform cancelled, faulty_of_fallible handle redisFaults rfl]
  cases fate : faulty.plan.headD .works with
  | raises => exact counters_leaves (failed _) _ ⟨clock, counters.report fresh⟩
  | works =>
    cases found : faulty.state.redis.lookup now key with
    | some value =>
      obtain ⟨count, deadline, nonzero, ran, holds⟩ :=
        counters.incr isCounter found fun subject same => (reported subject same).1
      simp only [Faulty.work, handle, clock, ran]
      exact counters_leaves (further _ (by omega)) _ ⟨rfl, holds⟩
    | none =>
      -- the counter is created, and its deadline follows
      obtain stopped | raised | ⟨-, continues, expires⟩ := armed found
      · exact absurd stopped cancelled
      · rw [fate] at raised
        cases raised
      have runs : afterOne cut ≠ some 0 := by
        cases cut with
        | none => simp [afterOne]
        | some count =>
          simp only [ne_eq, Option.some.injEq] at cancelled continues
          simp only [afterOne, ne_eq, Option.some.injEq]
          omega
      have created : (RedisCommand.incr key).execute now faulty.state.redis =
          (.ok (1 : ℕ), faulty.state.redis.put key ⟨.count 1, none⟩) := by
        simp only [RedisCommand.execute, found]
      have counted : (faulty.state.redis.put key ⟨.count 1, none⟩).lookup now key =
          some (.count 1) := by
        simp [ExpiringStore.lookup, ExpiringStore.put]
      have limited : (RedisCommand.expire key seconds).execute now
          (faulty.state.redis.put key ⟨.count 1, none⟩) =
          (.ok (), faulty.state.redis.put key ⟨.count 1, some (now + seconds)⟩) := by
        simp only [RedisCommand.execute, counted, ExpiringStore.put_put]
      have holds := counters.create key seconds reported
      simp only [Faulty.work, handle, clock, created, first]
      rw [leaves_perform runs, faulty_of_fallible handle redisFaults rfl]
      cases second : faulty.plan.tail.headD .works with
      | raises => exact absurd second expires
      | works =>
        simp only [Faulty.work, handle, limited]
        exact counters_leaves (then' _) _ ⟨rfl, holds⟩
      | lost =>
        simp only [Faulty.fail, redisFaults, if_true, handle, limited]
        exact counters_leaves (then' _) _ ⟨rfl, holds⟩
  | lost =>
    cases found : faulty.state.redis.lookup now key with
    | some value =>
      obtain ⟨count, deadline, nonzero, ran, holds⟩ :=
        counters.incr isCounter found fun subject same => (reported subject same).1
      simp only [Faulty.fail, redisFaults, if_true, handle, clock, ran]
      exact counters_leaves (failed _) _ ⟨rfl, holds⟩
    | none =>
      obtain stopped | raised | ⟨works, -⟩ := armed found
      · exact absurd stopped cancelled
      · rw [fate] at raised
        cases raised
      · rw [fate] at works
        cases works

end CountsFirst

omit [CommRing T] [LinearOrder T] in
/-- An error of Redis is swallowed. -/
theorem harmless_swallow (error : AppError) :
    Harmless (if error.kind = .redis then pure () else throw error : App T Unit) :=
  Every.ite (fun _ => Every.pure trivial) fun _ => Every.throw _

omit [CommRing T] [LinearOrder T] in
theorem countsFirst_hit (key : String) (limit windowSeconds : ℕ) :
    CountsFirst (.rateLimit key) windowSeconds (hit key limit windowSeconds : App T Unit) := by
  refine CountsFirst.bind (CountsFirst.tryCatch (CountsFirst.of_incr fun count => ?_) fun error => ?_)
    fun count => ?_
  · exact Every.pure trivial
  · exact Every.ite (fun _ => Every.throw _) fun _ => Every.throw _
  · exact Every.ite (fun _ => Every.throw _) fun _ => Every.pure trivial

omit [CommRing T] [LinearOrder T] in
theorem countsFirst_recordFailure (identifier : String) (ip : Option String) :
    CountsFirst (failcountKey env identifier ip) env.settings.lockoutSeconds
      (recordFailure env identifier ip) := by
  refine CountsFirst.tryCatch (CountsFirst.of_incr fun count => ?_) harmless_swallow
  refine Every.ite (fun _ => ?_) fun _ => Every.pure trivial
  have locks : Harmless (setKey (lockoutKey env identifier ip) .flag env.settings.lockoutSeconds :
      App T Unit) := Every.call rfl fun _ => trivial
  exact locks.sequence fun _ => Every.call trivial fun _ => trivial

omit [CommRing T] [LinearOrder T] in
theorem harmless_clearFailures (identifier : String) (ip : Option String) :
    Harmless (clearFailures env identifier ip) := by
  have deletes (key : Key) : Harmless (deleteKey key : App T Unit) :=
    Every.call trivial fun _ => trivial
  exact ((deletes _).sequence fun _ => deletes _).tryCatch harmless_swallow

theorem counters_called {run : LimiterRun T} {call : LimiterCall} {plan : List Fate}
    {cut : Option ℕ} (counters : Counters env run.server.clock run.failures run.server.redis)
    (arms : (LimiterEvent.calls call plan cut : LimiterEvent T).Arms env run) :
    Counters env (run.called env call plan cut).server.clock
      (run.called env call plan cut).failures (run.called env call plan cut).server.redis := by
  have holds : CountersOf env run.server.clock run.failures { state := run.server, plan } :=
    ⟨rfl, counters⟩
  have after : CountersOf env run.server.clock (call.failure env run.server.clock ++ run.failures)
      ((call.program env).leaves (handle.faulty redisFaults) cut { state := run.server, plan }) := by
    cases call with
    | hit key limit windowSeconds =>
      exact (countsFirst_hit key limit windowSeconds).counters rfl (fun _ other => by cases other)
        holds (arms _ rfl)
    | recordFailure identifier ip =>
      refine (countsFirst_recordFailure identifier ip).counters rfl (fun subject same => ?_) holds
        (arms _ rfl)
      cases same
      exact ⟨List.mem_singleton_self _, rfl⟩
    | clearFailures identifier ip =>
      exact counters_leaves (harmless_clearFailures identifier ip) cut holds
  unfold LimiterRun.called
  rw [after.1]
  exact after.2

/-! ## Runs -/

theorem counters_of_reachable [IsStrictOrderedRing T] {run : LimiterRun T}
    (reachable : ((limiterRuns env).guarded (LimiterEvent.Arms env)).Reachable run) :
    Counters env run.server.clock run.failures run.server.redis := by
  refine System.Reachable.invariant
    (fun run : LimiterRun T => Counters env run.server.clock run.failures run.server.redis)
    reachable ?_ ?_
  · rintro first ⟨empty, -⟩
    rw [empty]
    exact .empty _ _
  · rintro before event after - counters ⟨arms, step⟩
    cases step with
    | tick later => exact counters.later later
    | calls call plan cut => exact counters_called counters arms

/-- A call that finds no counter is the first of its window. -/
theorem run_hit_of_absent {key : String} {limit : ℕ} (server : Server T) (windowSeconds : ℕ)
    (absent : server.redis.lookup server.clock (.rateLimit key) = none) (positive : 0 < limit) :
    ((hit key limit windowSeconds : App T Unit).run handle server).1 = .ok () := by
  have counted : (server.redis.put (.rateLimit key) ⟨.count 1, none⟩).lookup server.clock
      (.rateLimit key) = some (.count 1) := by
    simp [ExpiringStore.lookup, ExpiringStore.put]
  have few : ¬ 1 > limit := by omega
  simp only [hit, run_bind, run_tryCatch, run_incrKey, RedisCommand.execute, absent, if_pos, run_pure]
  rw [run_expireKey_of_some _ _ counted]
  simp only [few, if_false, run_pure]

/-- If no counter is ever created without its deadline, the counters keep their promises. -/
theorem counters_forget [IsStrictOrderedRing T] {run : LimiterRun T}
    (reachable : ((limiterRuns env).guarded (LimiterEvent.Arms env)).Reachable run) :
    run.Forgets env := by
  have counters := counters_of_reachable reachable
  refine ⟨fun key entry isCounter stored => ?_, fun key => ?_, fun subject count found => ?_⟩
  · obtain ⟨_, _, -, rfl⟩ := counters.timed key entry isCounter stored
    rfl
  · cases stored : run.server.redis (.rateLimit key) with
    | none =>
      refine ⟨run.server.clock, fun instant _ limit windowSeconds positive => ?_⟩
      exact run_hit_of_absent { run.server with clock := instant } windowSeconds
        (by simp [ExpiringStore.lookup, stored]) positive
    | some entry =>
      obtain ⟨_, deadline, -, rfl⟩ := counters.timed _ entry rfl stored
      refine ⟨deadline, fun instant past limit windowSeconds positive => ?_⟩
      exact run_hit_of_absent { run.server with clock := instant } windowSeconds
        (by simp [ExpiringStore.lookup, stored, past.not_gt]) positive
  · cases stored : run.server.redis (.failcount subject) with
    | none => simp [ExpiringStore.lookup, stored] at found
    | some entry =>
      obtain ⟨_, deadline, -, rfl⟩ := counters.timed _ entry rfl stored
      have inTime : run.server.clock < deadline := by
        by_contra lapsed
        simp [ExpiringStore.lookup, stored, lapsed] at found
      simp only [ExpiringStore.lookup, stored, inTime, if_true, Option.some.injEq,
        RedisValue.count.injEq] at found
      subst found
      -- the counter counts no failure that its deadline does not cover
      refine (counters.recent subject _ deadline stored).2.trans (List.countP_mono_left ?_)
      intro failure _ counts
      simp only [countsFor, Bool.and_eq_true, decide_eq_true_eq] at counts ⊢
      exact ⟨counts.1, inTime.trans_le counts.2⟩

end

/-- Nothing has been counted yet. -/
def limiterAtRest : LimiterRun ℚ := ⟨World.new.server, []⟩

/-- A rate limit that is hit while Redis is well, and a failure that is reported and cancelled on the
way to the lock. -/
def limiterUsed : LimiterRun ℚ :=
  (limiterAtRest.called demo (.hit "auth:203.0.113.7" 10 60) [] none).called demo
    (.recordFailure "alice@example.org" (some "203.0.113.7")) [] (some 2)

theorem counters_forget_used : limiterUsed.Forgets demo := by
  have arms (run : LimiterRun ℚ) (call : LimiterCall) (cut : Option ℕ) (late : cut ≠ some 1) :
      (LimiterEvent.calls call [] cut).Arms demo run := fun _ _ _ => .inr (.inr ⟨rfl, late, by decide⟩)
  have rest : ((limiterRuns demo).guarded (LimiterEvent.Arms demo)).Reachable limiterAtRest :=
    .start ⟨rfl, rfl⟩
  have counted := rest.step ⟨arms _ (.hit "auth:203.0.113.7" 10 60) none (by decide), .calls _ _ _⟩
  exact counters_forget (counted.step ⟨arms _ _ (some 2) (by decide), .calls _ _ _⟩)

/-- The connection breaks between the increment that creates a counter and its deadline. -/
def limiterStuck : LimiterRun ℚ :=
  limiterAtRest.called demo (.hit "auth:203.0.113.7" 10 60) [.works, .raises] none

theorem counter_without_deadline :
    ¬ ∀ run : LimiterRun ℚ, (limiterRuns demo).Reachable run → run.Forgets demo := by
  intro forget
  have rest : (limiterRuns demo).Reachable limiterAtRest := .start ⟨rfl, rfl⟩
  have reachable : (limiterRuns demo).Reachable limiterStuck := rest.step (.calls _ _ _)
  have stored : ∃ entry, limiterStuck.server.redis (.rateLimit "auth:203.0.113.7") = some entry ∧
      entry.deadline = none := ⟨⟨.count 1, none⟩, rfl, rfl⟩
  obtain ⟨entry, stored, endless⟩ := stored
  have finite := (forget limiterStuck reachable).finite _ entry rfl stored
  rw [endless] at finite
  cases finite

end EnterpriseAuth
