import EnterpriseAuth.Effects.Transition
import EnterpriseAuth.Requests.LockoutWindows
import EnterpriseAuth.Requests.OAuthCallback
import EnterpriseAuth.Guarantees.Scenario

/-!
# Brute-force lockout

Calls of `authenticate` for one address and one client, at any instants and with anything else
happening in between.  The two keys of the store mirror the windows of failures that the log of the
calls determines, so what windows guarantee holds of the calls.
-/

namespace EnterpriseAuth

open Effects Program RateLimiter FailureWindow

variable {T : Type}

/-! ## One call -/

/-- What a reply of `authenticate` says about the credentials. -/
def verdictOf : Except AppError (User T) → Verdict
  | .ok _ => .succeeded
  | .error error =>
    if error = .accountLocked then .refused
    else if error = .auth "Invalid email or password." then .failed
    else .undecided

/-- The rows of users keep to the widths of their columns, as the database guarantees. -/
def Database.UsersFit (db : Database T) : Prop := ∀ user ∈ db.users.rows, user.fits = true

/-- What is relied on of `passlib`: a hash fits its column. -/
def HashesFit (env : Environment T) : Prop :=
  ∀ salt password, fitsColumn 255 (env.hashPassword salt password) = true

section
variable [CommRing T] [LinearOrder T] (env : Environment T) (email ip : String)

variable {env email ip}

omit [CommRing T] [LinearOrder T] in
/-- The rehash of a password that was accepted is always stored. -/
theorem updateUser_rehash {db : Database T} {user : User T} {hashedPassword : String}
    (fits : db.UsersFit) (hashFits : fitsColumn 255 hashedPassword = true)
    (owner : db.usersByEmail env email = [user]) :
    ∃ after, Database.updateUser user.id (fun user => { user with hashedPassword }) (fun _ => rfl)
      db = .ok after := by
  have selected : user ∈ db.usersByEmail env email := by rw [owner]; exact List.mem_singleton_self _
  obtain ⟨stored, address⟩ := List.mem_filter.mp selected
  have stillFits : ({ user with hashedPassword } : User T).fits = true := by
    have old := fits user stored
    simp only [User.fits, Bool.and_eq_true] at old ⊢
    exact ⟨⟨old.1.1, hashFits⟩, old.2⟩
  have unique : db.emailTaken { user with hashedPassword } = false := by
    rw [Database.emailTaken, List.any_eq_false]
    intro other member
    simp only [Bool.and_eq_true, decide_eq_true_eq, beq_iff_eq, not_and]
    intro different sameEmail
    have alsoSelected : other ∈ db.usersByEmail env email :=
      List.mem_filter.mpr ⟨member, by rw [sameEmail]; exact address⟩
    rw [owner, List.mem_singleton] at alsoSelected
    exact different (by rw [alsoSelected])
  simp only [Database.updateUser, Table.find_of_mem stored, stillFits, unique]
  exact ⟨_, rfl⟩

variable (env email ip) in
/-- A call leaves the clock alone and the two keys as its verdict says. -/
def Server.Answers (server : Server T) (reply : Except AppError (User T)) (final : Server T) : Prop :=
  final.clock = server.clock ∧ Attempted env email (some ip) server (verdictOf reply) final.redis

omit [CommRing T] [LinearOrder T] in
theorem verdictOf_getByEmail {db : Database T} {error : AppError}
    (looked : db.getByEmail env email = .error error) :
    verdictOf (.error error : Except AppError (User T)) = .undecided := by
  unfold Database.getByEmail at looked
  split at looked <;> cases looked
  rfl

/-- The rest of a call once the pair is not locked and the password has been compared. -/
theorem triple_accept (hashesFit : HashesFit env) (server : Server T)
    (fits : server.working.UsersFit) (unlocked : ¬ server.Locked env email (some ip)) (password : String)
    {user : User T} (owner : server.working.usersByEmail env email = [user]) (draws : ℕ) :
    Triple handle (· = { server with draws })
      (do
        clearFailures env email (some ip)
        if env.needsRehash user.hashedPassword then
          let rehash ← uuid4
          let hashedPassword := env.hashPassword rehash password
          write (Database.updateUser user.id (fun user => { user with hashedPassword }) fun _ => rfl)
          return { user with hashedPassword }
        else return user : App T (User T))
      (fun user final => server.Answers env email ip (.ok user) final)
      (fun error final => server.Answers env email ip (.error error) final) := by
  constructor
  rintro _ rfl
  rw [run_bind, run_clearFailures]
  by_cases rehashed : env.needsRehash user.hashedPassword
  · obtain ⟨after, updated⟩ := updateUser_rehash fits (hashesFit draws password) owner
    simp only [rehashed, if_true, run_bind, run_uuid4, run_write, updated, run_pure]
    exact ⟨rfl, .succeeded unlocked⟩
  · simp only [rehashed]
    exact ⟨rfl, .succeeded unlocked⟩

theorem triple_authenticate (hashesFit : HashesFit env) (server : Server T)
    (fits : server.working.UsersFit) (password : String) :
    Triple handle (· = server) (AuthService.authenticate env email password ip)
      (fun user final => server.Answers env email ip (.ok user) final)
      (fun error final => server.Answers env email ip (.error error) final) := by
  simp only [AuthService.authenticate, throw_bind]
  refine Triple.start (fun error next ran => ?_) fun _ next ran => ?_
  all_goals
    rw [run_ensureNotLocked] at ran
    split at ran <;> cases ran
  next locked => exact ⟨rfl, .refused locked⟩
  next unlocked =>
    refine Triple.start (fun error next ran => ?_) fun found next ran => ?_
    all_goals rw [run_getByEmail] at ran
    all_goals obtain ⟨looked, rfl⟩ := Prod.mk.inj ran
    · refine ⟨rfl, ?_⟩
      rw [verdictOf_getByEmail looked]
      exact .undecided unlocked
    -- an unknown address and a wrong password end alike
    have wrong (draws : ℕ) : Triple handle (· = { server with draws })
        (do recordFailure env email (some ip); throw (.auth "Invalid email or password.") :
          App T (User T))
        (fun user final => server.Answers env email ip (.ok user) final)
        (fun error final => server.Answers env email ip (.error error) final) := by
      constructor
      rintro _ rfl
      rw [run_bind, run_recordFailure]
      exact ⟨rfl, .failed unlocked⟩
    refine Triple.start (fun error next ran => ?_) fun salt next ran => ?_
    all_goals
      rw [run_uuid4] at ran
      cases ran
    cases found with
    | none => exact wrong _
    | some user =>
      cases right : env.verifyPassword password user.hashedPassword with
      | false =>
        exact wrong _
      | true =>
        refine Triple.ite (fun _ => ?_) fun _ => ?_
        · constructor
          rintro _ rfl
          exact ⟨rfl, .undecided unlocked⟩
        · exact triple_accept hashesFit server fits unlocked password
            (usersByEmail_of_some env looked) _

end

/-! ## Runs of calls -/

structure LoginRun (T : Type) where
  server : Server T
  /-- the calls so far, the latest first -/
  log : List (Attempt T)

inductive LoginEvent (T : Type) where
  | tick (instant : T)
  | attempt (password : String)
  /-- whatever else happens between two calls -/
  | elsewhere

section
variable [CommRing T] [LinearOrder T] (env : Environment T) (email ip : String)

def LoginRun.reply (run : LoginRun T) (password : String) : Except AppError (User T) :=
  ((AuthService.authenticate env email password ip).run handle run.server).1

def LoginRun.attempted (run : LoginRun T) (password : String) : LoginRun T where
  server := ((AuthService.authenticate env email password ip).run handle run.server).2
  log := ⟨run.server.clock, verdictOf (run.reply env email ip password)⟩ :: run.log

inductive LoginRun.Step : LoginRun T → LoginEvent T → LoginRun T → Prop
  | tick {run : LoginRun T} {instant : T} (later : run.server.clock ≤ instant) :
    Step run (.tick instant) { run with server := { run.server with clock := instant } }
  | attempt {run : LoginRun T} {password : String} (fits : run.server.working.UsersFit) :
    Step run (.attempt password) (run.attempted env email ip password)
  | elsewhere {run : LoginRun T} {server : Server T} (clock : server.clock = run.server.clock)
    (lock : server.redis (lockoutKey env email (some ip)) =
      run.server.redis (lockoutKey env email (some ip)))
    (count : server.redis (failcountKey env email (some ip)) =
      run.server.redis (failcountKey env email (some ip))) :
    Step run .elsewhere { run with server }

/-- The calls for one address and one client, from where neither key exists. -/
def loginRuns : System (LoginRun T) (LoginEvent T) where
  start run := run.log = [] ∧ run.server.redis (lockoutKey env email (some ip)) = none ∧
    run.server.redis (failcountKey env email (some ip)) = none
  step := LoginRun.Step env email ip

end

/-! ## Guarantees -/

section
variable [CommRing T] [LinearOrder T] {env : Environment T} {email ip : String}

def LoginRun.Mirrors (env : Environment T) (email ip : String) (run : LoginRun T) : Prop :=
  EnterpriseAuth.Mirrors env email (some ip) run.log run.server.clock run.server.redis

theorem answers_authenticate (hashesFit : HashesFit env) {run : LoginRun T}
    (fits : run.server.working.UsersFit) (password : String) :
    run.server.Answers env email ip (run.reply env email ip password)
      (run.attempted env email ip password).server := by
  have triple : Triple handle (· = run.server) (AuthService.authenticate env email password ip)
      (fun user final => run.server.Answers env email ip (.ok user) final)
      (fun error final => run.server.Answers env email ip (.error error) final) :=
    triple_authenticate hashesFit run.server fits password
  unfold LoginRun.reply LoginRun.attempted
  cases ran : (AuthService.authenticate env email password ip).run handle run.server with
  | mk reply final =>
    cases reply with
    | ok user => exact triple.returned rfl ran
    | error error => exact triple.failed rfl ran

theorem LoginRun.Mirrors.step {before after : LoginRun T} {event : LoginEvent T}
    (mirrors : before.Mirrors env email ip) (hashesFit : HashesFit env)
    (atLeast : 2 ≤ env.settings.maxFailedLogins)
    (step : LoginRun.Step env email ip before event after) : after.Mirrors env email ip := by
  cases step with
  | tick later => exact EnterpriseAuth.Mirrors.later mirrors later rfl rfl
  | @attempt password fits =>
    obtain ⟨clock, attempted⟩ := answers_authenticate hashesFit fits password
    unfold LoginRun.Mirrors
    rw [clock]
    exact mirrors.attempt attempted (by omega)
  | elsewhere clock lock count => exact EnterpriseAuth.Mirrors.later mirrors clock.ge lock count

theorem mirrors_of_reachable {run : LoginRun T} (hashesFit : HashesFit env)
    (atLeast : 2 ≤ env.settings.maxFailedLogins)
    (reachable : (loginRuns env email ip).Reachable run) : run.Mirrors env email ip := by
  refine System.Reachable.invariant (LoginRun.Mirrors env email ip) reachable ?_ ?_
  · rintro first ⟨empty, noLock, noCount⟩
    unfold LoginRun.Mirrors
    rw [empty]
    exact .start _ noLock noCount
  · exact fun before event after _ mirrors step => mirrors.step hashesFit atLeast step

/-- A call that meets the lock is refused, whatever the password. -/
theorem reply_of_locked {run : LoginRun T} (locked : run.server.Locked env email (some ip))
    (password : String) : run.reply env email ip password = .error .accountLocked := by
  unfold Server.Locked at locked
  unfold LoginRun.reply AuthService.authenticate
  rw [run_bind, run_ensureNotLocked, if_pos locked]

theorem locked_of_reply {run : LoginRun T} (hashesFit : HashesFit env)
    (fits : run.server.working.UsersFit) {password : String}
    (refused : run.reply env email ip password = .error .accountLocked) :
    run.server.Locked env email (some ip) := by
  obtain ⟨-, attempted⟩ : run.server.Answers env email ip (run.reply env email ip password) _ :=
    answers_authenticate hashesFit fits password
  rw [refused] at attempted
  generalize (run.attempted env email ip password).server.redis = after at attempted
  cases attempted with
  | refused locked => exact locked

/-- While its lock lasts, a full window stays the latest one. -/
theorem window_of_leads {run later : LoginRun T} {last : T} (hashesFit : HashesFit env)
    (atLeast : 2 ≤ env.settings.maxFailedLogins) (mirrors : run.Mirrors env email ip)
    (full : env.settings.maxFailedLogins ≤ (window env run.log).length)
    (latest : (window env run.log).head? = some last)
    (leads : (loginRuns env email ip).Leads run later) :
    later.Mirrors env email ip ∧
      (later.server.clock < last + lockout env → window env later.log = window env run.log) := by
  refine System.Leads.invariant (fun state : LoginRun T => state.Mirrors env email ip ∧
    (state.server.clock < last + lockout env → window env state.log = window env run.log))
    leads ⟨mirrors, fun _ => rfl⟩ ?_
  rintro before event after ⟨mirrors, same⟩ step
  refine ⟨mirrors.step hashesFit atLeast step, fun recent => ?_⟩
  cases step with
  | tick order => exact same (order.trans_lt recent)
  | @attempt password fits =>
    obtain ⟨clock, attempted⟩ := answers_authenticate hashesFit fits password
    have unchanged := same (clock ▸ recent)
    have locked : before.server.Locked env email (some ip) := by
      refine (mirrors.locked_iff (by omega)).mpr ?_
      rw [unchanged, isLocked_iff latest]
      exact ⟨full, clock ▸ recent⟩
    rw [← unchanged]
    simp only [LoginRun.attempted, reply_of_locked locked]
    rfl
  | elsewhere clock => exact same (clock ▸ recent)

variable (env email ip) in
/-- What the lockout promises in a state of a run. -/
structure LoginRun.LockedOut (run : LoginRun T) : Prop where
  /-- Nobody is locked out without cause. -/
  justified : run.server.working.UsersFit → ∀ password,
    run.reply env email ip password = .error .accountLocked →
    ∃ failures : List T, failures.Sublist (streak run.log) ∧
      failures.length = env.settings.maxFailedLogins ∧
      (∀ first ∈ failures, ∀ second ∈ failures, second < first + lockout env) ∧
      ∀ last, failures.head? = some last → run.server.clock < last + lockout env
  /-- A full window locks for one length, also against the right password. -/
  enforced : (window env run.log).length = env.settings.maxFailedLogins →
    ∀ last, (window env run.log).head? = some last →
    ∀ later, (loginRuns env email ip).Leads run later → later.server.clock < last + lockout env →
    ∀ password, later.reply env email ip password = .error .accountLocked
  /-- Few passwords are tried between two successes. -/
  bounded : ∀ start, Quiet start (lockout env) run.log →
    failures start (lockout env) run.log ≤ 2 * env.settings.maxFailedLogins - 2

/-- The lockout keeps its promises in every run. -/
theorem lockout_bounds_failures [IsStrictOrderedRing T] {run : LoginRun T}
    (hashesFit : HashesFit env) (atLeast : 2 ≤ env.settings.maxFailedLogins)
    (reachable : (loginRuns env email ip).Reachable run) : run.LockedOut env email ip := by
  have mirrors := mirrors_of_reachable hashesFit atLeast reachable
  have later (instant : T) : instant < instant + lockout env :=
    lt_add_of_pos_right instant (by exact_mod_cast env.settings.lockoutSeconds.pos)
  refine ⟨fun fits password refused => ?_, fun full last latest next leads recent password => ?_,
    fun start quiet => mirrors.lawful.failures_le atLeast later quiet⟩
  · have locked := locked_of_reply hashesFit fits refused
    exact mirrors.lawful.locked_streak (by omega) later ((mirrors.locked_iff (by omega)).mp locked)
  · obtain ⟨mirrorsNext, same⟩ := window_of_leads hashesFit atLeast mirrors full.ge latest leads
    refine reply_of_locked ((mirrorsNext.locked_iff (by omega)).mpr ?_) password
    rw [same recent, isLocked_iff latest]
    exact ⟨full.ge, recent⟩

end

/-- The small deployment with hashes that fit their column. -/
def demoHashing : Environment ℚ :=
  { demo with
    hashPassword := fun _ password =>
      String.ofList ((('$' :: password.toList).filter fun character => character.toNat ≠ 0).take 255) }

theorem hashesFit_demoHashing : HashesFit demoHashing := by
  intro salt password
  simp only [demoHashing, fitsColumn, fitsWidth, String.length_ofList, String.toList_ofList,
    Bool.and_eq_true, decide_eq_true_eq, List.all_eq_true]
  constructor
  · exact List.length_take_le _ _
  · intro character member
    simpa using (List.mem_filter.mp (List.mem_of_mem_take member)).2

/-- Alice has registered, and someone guesses her password from one address. -/
def aliceGuessed : ℕ → LoginRun ℚ
  | 0 => ⟨(World.new.play demo [.request registerAlice]).server, []⟩
  | count + 1 => (aliceGuessed count).attempted demoHashing "alice@example.org" "unknown" "guess"

/-- The guesses as a run. -/
theorem reachable_aliceGuessed (count : ℕ)
    (fits : ∀ earlier < count, (aliceGuessed earlier).server.working.UsersFit) :
    (loginRuns demoHashing "alice@example.org" "unknown").Reachable (aliceGuessed count) := by
  induction count with
  | zero => exact .start ⟨rfl, by decide +kernel, by decide +kernel⟩
  | succ count inductionHypothesis =>
    have guessed : (loginRuns demoHashing "alice@example.org" "unknown").step (aliceGuessed count)
        (.attempt "guess") (aliceGuessed (count + 1)) := .attempt (fits count (Nat.lt_succ_self _))
    exact (inductionHypothesis fun earlier before => fits earlier (before.trans (Nat.lt_succ_self _))).step
      guessed

/-- After five guesses at instant 0 the right password is refused for 900 seconds. -/
theorem lockout_bounds_failures_for_alice :
    LoginRun.reply demoHashing "alice@example.org" "unknown"
      ⟨{ (aliceGuessed 5).server with clock := 899 }, (aliceGuessed 5).log⟩ "Str0ng!pass" =
    .error .accountLocked := by
  have fits : ∀ earlier < 5, (aliceGuessed earlier).server.working.UsersFit := by
    unfold Database.UsersFit
    decide +kernel
  have lockedOut := lockout_bounds_failures hashesFit_demoHashing (by decide)
    (reachable_aliceGuessed 5 fits)
  have waits : (loginRuns demoHashing "alice@example.org" "unknown").Leads (aliceGuessed 5)
      ⟨{ (aliceGuessed 5).server with clock := 899 }, (aliceGuessed 5).log⟩ :=
    (System.Leads.refl _).tail (.tick (by decide +kernel))
  exact lockedOut.enforced (by decide +kernel) 0 (by decide +kernel) _ waits
    (by change (899 : ℚ) < 0 + (900 : ℕ); decide +kernel) _

end EnterpriseAuth
