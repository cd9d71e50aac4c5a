import EnterpriseAuth.Api.Concurrency
import EnterpriseAuth.Effects.OneTime
import EnterpriseAuth.Guarantees.OneTimeCodes
import EnterpriseAuth.Requests.Calls
import EnterpriseAuth.Requests.Conduct

/-!
# One-time values in Redis under concurrency

`verify_totp` asks Redis whether a code carries a marker and sets the marker later; `_pop_state` gets
a state and deletes it with a second command.  Between the two commands another call may ask.  Where
no call asks in such a window, a code and a state are honoured once.
-/

namespace EnterpriseAuth

open Effects Program TwoFactorService OAuthService

variable {T : Type} [CommRing T] [LinearOrder T]

/-! ## Values under one key -/

/-- Time passes, and the second factors stay as they are. -/
structure Shared.Later (before after : Shared T) : Prop where
  clock : before.clock ≤ after.clock
  twoFactorAuth : after.committed.twoFactorAuth = before.committed.twoFactorAuth

/-- What happens elsewhere leaves the entry under the key alone. -/
structure Shared.Elsewhere (key : Key) (before after : Shared T) : Prop extends
    before.Later after where
  entry : after.redis key = before.redis key

/-- The command is about neither the key nor the database. -/
def Command.Beside (key : Key) : Command T → Prop
  | .redis command => command.key ≠ key
  | .write _ | .commit | .addTask _ => False
  | .now | .draw | .view => True

/-- A value that one command of Redis looks at and another one marks as used. -/
def redisOnce (check mark : RedisCommand) (fresh spent timely : Shared T → Prop) :
    OneTime (Command T) Command.Res AppError (Transaction T) (Shared T) where
  handle := concurrently
  moves := Shared.Later
  refl _ := ⟨le_rfl, rfl⟩
  trans first second :=
    ⟨first.clock.trans second.clock, second.twoFactorAuth.trans first.twoFactorAuth⟩
  spent
  checks _ op := op = .redis check
  passes entry := fresh entry.found
  marks entry := entry.op = .redis mark
  timely

section
variable {check mark : RedisCommand} {fresh spent timely : Shared T → Prop} {key : Key}

/-- The commands beside the key keep to the discipline, and leave the transaction alone. -/
theorem permits_beside (checkKey : check.key = key) (markKey : mark.key = key)
    (lasts : ∀ before after : Shared T, before.Elsewhere key after → spent before → spent after)
    {command : Command T} (beside : command.Beside key)
    (vantage : Vantage (Command T) Command.Res AppError (Transaction T) (Shared T))
    (shared : Shared T) :
    (redisOnce check mark fresh spent timely).discipline.Permits vantage command shared ∧
      ((redisOnce check mark fresh spent timely).discipline.left vantage command shared).own =
        vantage.own := by
  have notCheck : command ≠ .redis check := by rintro rfl; exact beside checkKey
  have notMark : command ≠ .redis mark := by rintro rfl; exact beside markKey
  have elsewhere : shared.Elsewhere key (concurrently command (vantage.own, shared)).2.2 ∧
      (concurrently command (vantage.own, shared)).2.1 = vantage.own := by
    cases command with
    | redis command =>
      refine ⟨⟨⟨le_rfl, rfl⟩, RedisCommand.execute_other ?_ _ _⟩, rfl⟩
      cases command <;> simp_all [RedisCommand.writes, RedisCommand.key, Command.Beside]
    | write | commit | addTask => exact beside.elim
    | now | draw | view => exact ⟨⟨⟨le_rfl, rfl⟩, rfl⟩, rfl⟩
  exact ⟨⟨⟨fun checks => absurd checks notCheck, fun marks => absurd marks notMark⟩,
    elsewhere.1.toLater, lasts _ _ elsewhere.1⟩, elsewhere.2⟩

/-- What outlasts other threads and the thread's own commands beside the key. -/
theorem obeys_beside (checkKey : check.key = key) (markKey : mark.key = key)
    (lasts : ∀ before after : Shared T, before.Elsewhere key after → spent before → spent after)
    {α : Type} (program : App T α) [calls : Calls (Command.Beside key) program]
    {stays : Vantage (Command T) Command.Res AppError (Transaction T) (Shared T) → Prop}
    (waits : ∀ own log since shared, stays ⟨own, log, since⟩ → since.Later shared →
      stays ⟨own, log, shared⟩)
    (logs : ∀ own log since entry, stays ⟨own, log, since⟩ → stays ⟨own, entry :: log, since⟩) :
    (redisOnce check mark fresh spent timely).discipline.Obeys stays program (fun _ => stays)
      fun _ _ => True := by
  refine (Discipline.Obeys.of_every calls.every ?_ ?_).weaken (fun _ => id) (fun _ _ => And.right)
    fun _ _ _ => trivial
  · intro vantage shared holds evolves
    exact waits _ _ _ _ holds evolves.1
  · intro command vantage beside holds _
    obtain ⟨permits, own⟩ := permits_beside checkKey markKey lasts beside vantage vantage.since
    have logged (entry) : stays ⟨_, entry :: vantage.log, vantage.since⟩ ↔
        stays ⟨vantage.own, entry :: vantage.log, vantage.since⟩ :=
      iff_of_eq (congrArg (fun own => stays ⟨own, entry :: vantage.log, vantage.since⟩) own)
    exact ⟨permits, waits _ _ _ _ ((logged _).mpr (logs _ _ _ _ holds)) permits.2.1⟩

end

/-! ## States of an authorization -/

/-- The state is fetched by `GET` and used up by `DEL`. -/
def stateOnce (state : String) :
    OneTime (Command T) Command.Res AppError (Transaction T) (Shared T) :=
  redisOnce (.get (.oauthState state)) (.delete (.oauthState state))
    (fun shared => (shared.redis.lookup shared.clock (.oauthState state)).isSome)
    (fun shared => shared.redis.lookup shared.clock (.oauthState state) = none) fun _ => True

omit [CommRing T] in
theorem state_lasts (state : String) (before after : Shared T)
    (elsewhere : before.Elsewhere (.oauthState state) after)
    (spent : before.redis.lookup before.clock (.oauthState state) = none) :
    after.redis.lookup after.clock (.oauthState state) = none := by
  rw [ExpiringStore.lookup_congr elsewhere.entry]
  exact ExpiringStore.lookup_lapsed elsewhere.clock spent

theorem obeys_popState (state providerName : String)
    {before : Vantage (Command T) Command.Res AppError (Transaction T) (Shared T) → Prop} :
    (stateOnce state).discipline.Obeys before (popState state providerName : App T OAuthState)
      (fun _ vantage => (stateOnce state).Marked vantage.log) fun _ _ => True := by
  have get : (stateOnce state).discipline.Obeys before
      (getKey (.oauthState state) : App T (Option RedisValue))
      (fun reply vantage => reply.isSome → (stateOnce state).Passed vantage.log)
      fun _ _ => True := by
    refine .call fun vantage shared _ _ _ => ⟨⟨⟨fun _ fresh spent => ?_, nofun⟩, ⟨le_rfl, rfl⟩, id⟩, ?_⟩
    · exact Option.isSome_iff_ne_none.mp fresh spent
    · exact fun found => .inr ⟨rfl, found⟩
  have delete : (stateOnce state).discipline.Obeys
      (fun vantage => (stateOnce state).Passed vantage.log)
      (deleteKey (.oauthState state) : App T Unit)
      (fun _ vantage => (stateOnce state).Marked vantage.log) fun _ _ => True := by
    refine .call fun vantage shared passed _ _ =>
      ⟨⟨⟨nofun, fun _ => ⟨passed, ?_⟩⟩, ⟨le_rfl, rfl⟩, fun _ => ?_⟩, ?_⟩
    · exact ExpiringStore.lookup_remove_same _ _ _
    · exact ExpiringStore.lookup_remove_same _ _ _
    · exact OneTime.marked_cons.mpr (.inl rfl)
  unfold popState
  refine get.bind fun reply => ?_
  split
  next payload =>
    refine (delete.enter fun _ passed => passed rfl).bind
      fun _ => .ite (fun _ => .throw fun _ _ => trivial) fun _ => .pure fun _ => id
  next => exact .throw fun _ _ => trivial
  next => exact .throw fun _ _ => trivial

/-! ## One-time codes -/

/-- The secret that a code of the user is compared with. -/
def Shared.totpSecret (env : Environment T) (userId : Uuid) (shared : Shared T) : Option String :=
  (shared.committed.twoFactorAuth.find userId).bind fun record => env.decrypt record.encryptedSecret

/-- The code is not accepted any more, now or later. -/
def Shared.Past (env : Environment T) (userId : Uuid) (otp : String) (shared : Shared T) : Prop :=
  ∀ secret instant, shared.totpSecret env userId = some secret → shared.clock ≤ instant →
    env.totpVerify secret otp env.settings.totpValidWindow instant = false

/-- The marker of a code is asked for by `EXISTS` and set by `SET`.  Where it has lapsed, the code
has to be past too. -/
def totpOnce (env : Environment T) (userId : Uuid) (otp : String) :
    OneTime (Command T) Command.Res AppError (Transaction T) (Shared T) :=
  redisOnce (.present (.otpUsed userId otp)) (.set (.otpUsed userId otp) .flag (replayTtl env))
    (fun shared => shared.redis (.otpUsed userId otp) = none)
    (fun shared => (shared.redis (.otpUsed userId otp)).isSome)
    fun shared => (shared.redis (.otpUsed userId otp)).isSome →
      shared.redis.lookup shared.clock (.otpUsed userId otp) = none → shared.Past env userId otp

section
variable (env : Environment T)

omit [CommRing T] in
theorem Shared.Past.later {userId : Uuid} {otp : String} {before after : Shared T}
    (past : before.Past env userId otp) (later : before.Later after) : after.Past env userId otp := by
  intro secret instant hasSecret order
  rw [Shared.totpSecret, later.twoFactorAuth] at hasSecret
  exact past secret instant hasSecret (later.clock.trans order)

section
variable (userId : Uuid) (otp identifier : String) (ip : Option String)

omit [CommRing T] [LinearOrder T]

instance : Opens (T := T) (Command.Beside (.otpUsed userId otp))
    (RateLimiter.lockoutKey env identifier ip) where
  opens command isKey := by simp [Command.Beside, isKey, RateLimiter.lockoutKey]

instance : Opens (T := T) (Command.Beside (.otpUsed userId otp))
    (RateLimiter.failcountKey env identifier ip) where
  opens command isKey := by simp [Command.Beside, isKey, RateLimiter.failcountKey]

end

omit [CommRing T] in
theorem marker_lasts (userId : Uuid) (otp : String) (before after : Shared T)
    (elsewhere : before.Elsewhere (.otpUsed userId otp) after)
    (spent : (before.redis (.otpUsed userId otp)).isSome) :
    (after.redis (.otpUsed userId otp)).isSome := by
  rwa [elsewhere.entry]

variable (user : User T) (otp : String)

/-- The secret of the user, and a code that was seen unused unless it is past. -/
structure SeenUnused (secret : String)
    (vantage : Vantage (Command T) Command.Res AppError (Transaction T) (Shared T)) : Prop where
  secret : vantage.since.totpSecret env user.id = some secret
  seen : (totpOnce env user.id otp).Passed vantage.log ∨ vantage.since.Past env user.id otp

theorem obeys_totp_beside {α : Type} (program : App T α)
    [Calls (Command.Beside (.otpUsed user.id otp)) program] :
    (totpOnce env user.id otp).discipline.Obeys (fun _ => True) program (fun _ _ => True)
      fun _ _ => True := by
  refine obeys_beside ?_ ?_ (marker_lasts user.id otp) program (fun _ _ _ _ _ _ => trivial)
    fun _ _ _ _ _ => trivial <;> rfl

theorem obeys_enabledRecord :
    (totpOnce env user.id otp).discipline.Obeys (fun vantage => vantage.own = {})
      (enabledRecord user)
      (fun record vantage => vantage.since.committed.twoFactorAuth.find user.id = some record)
      fun _ _ => True := by
  have view : (totpOnce env user.id otp).discipline.Obeys (fun vantage => vantage.own = {})
      (view : App T (Database T)) (fun db vantage => db = vantage.since.committed) fun _ _ => True := by
    refine .call fun vantage shared fresh _ _ => ⟨⟨⟨nofun, nofun⟩, ⟨le_rfl, rfl⟩, id⟩, ?_⟩
    have sees : (concurrently .view (vantage.own, shared)).1 = .ok shared.committed := by
      rw [fresh]
      rfl
    split
    next db replied => exact Except.ok.inj (replied.symm.trans sees)
    next => trivial
  unfold enabledRecord
  refine view.bind fun db => ?_
  cases found : db.twoFactorAuth.find user.id with
  | none => exact .throw fun _ _ => trivial
  | some record =>
    refine .ite (fun _ => .pure fun vantage same => ?_) fun _ => .throw fun _ _ => trivial
    rw [← same, found]

theorem obeys_present (secret : String) :
    (totpOnce env user.id otp).discipline.Obeys
      (fun vantage => vantage.since.totpSecret env user.id = some secret)
      (present (.otpUsed user.id otp))
      (fun used vantage => used = false → SeenUnused env user otp secret vantage)
      fun _ _ => True := by
  refine .call fun vantage shared hasSecret evolves granted =>
    ⟨⟨⟨fun _ fresh spent => ?_, nofun⟩, ⟨le_rfl, rfl⟩, id⟩, fun unused => ⟨?_, ?_⟩⟩
  · have absent : shared.redis (.otpUsed user.id otp) = none := fresh
    have stored : (shared.redis (.otpUsed user.id otp)).isSome := spent
    rw [absent] at stored
    cases stored
  · have same := evolves.1.twoFactorAuth
    change shared.totpSecret env user.id = some secret
    rwa [Shared.totpSecret, same]
  · -- an absent marker was never set, or has lapsed
    cases stored : shared.redis (.otpUsed user.id otp) with
    | none => exact .inl (.inr ⟨rfl, stored⟩)
    | some entry =>
      refine .inr (granted rfl (by rw [stored]; rfl) ?_)
      have unseen : (shared.redis.lookup shared.clock (.otpUsed user.id otp)).isSome = false := unused
      simpa using unseen

theorem obeys_now (secret : String) :
    (totpOnce env user.id otp).discipline.Obeys (SeenUnused env user otp secret) (now : App T T)
      (fun instant vantage => env.totpVerify secret otp env.settings.totpValidWindow instant = true →
        (totpOnce env user.id otp).Passed vantage.log) fun _ _ => True := by
  refine .call fun vantage shared seen evolves _ =>
    ⟨⟨⟨nofun, nofun⟩, ⟨le_rfl, rfl⟩, id⟩, fun verified => ?_⟩
  rcases seen.seen with passed | past
  · exact passed.cons _
  · have hasSecret : shared.totpSecret env user.id = some secret := by
      rw [Shared.totpSecret, evolves.1.twoFactorAuth]
      exact seen.secret
    rw [past.later env evolves.1 secret shared.clock hasSecret le_rfl] at verified
    cases verified

theorem obeys_setKey :
    (totpOnce env user.id otp).discipline.Obeys
      (fun vantage => (totpOnce env user.id otp).Passed vantage.log)
      (setKey (.otpUsed user.id otp) .flag (replayTtl env) : App T Unit)
      (fun _ vantage => (totpOnce env user.id otp).Marked vantage.log) fun _ _ => True := by
  have written (own : Transaction T) (shared : Shared T) :
      ((concurrently (.redis (.set (.otpUsed user.id otp) .flag (replayTtl env)))
        (own, shared)).2.2.redis (.otpUsed user.id otp)).isSome := by
    simp [concurrently, RedisCommand.execute, replayTtl_ne_zero, ExpiringStore.put]
  refine .call fun vantage shared passed evolves _ => ?_
  refine ⟨⟨⟨?_, fun _ => ⟨passed, written vantage.own shared⟩⟩, ⟨le_rfl, rfl⟩,
    fun _ => written vantage.own shared⟩, ?_⟩
  · intro looks
    cases looks
  split
  · exact OneTime.marked_cons.mpr (.inl rfl)
  · trivial

theorem obeys_verifyTotp :
    (totpOnce env user.id otp).discipline.Obeys (fun vantage => vantage.own = {})
      (verifyTotp env user otp) (fun _ vantage => (totpOnce env user.id otp).Marked vantage.log)
      fun _ _ => True := by
  have unlocked : (totpOnce env user.id otp).discipline.Obeys (fun vantage => vantage.own = {})
      (RateLimiter.ensureNotLocked env (lockId user.id) none) (fun _ vantage => vantage.own = {})
      fun _ _ => True := by
    refine obeys_beside ?_ ?_ (marker_lasts user.id otp) _ (fun _ _ _ _ holds _ => holds)
      fun _ _ _ _ holds => holds <;> rfl
  have cleared : (totpOnce env user.id otp).discipline.Obeys
      (fun vantage => (totpOnce env user.id otp).Marked vantage.log)
      (RateLimiter.clearFailures env (lockId user.id) none)
      (fun _ vantage => (totpOnce env user.id otp).Marked vantage.log) fun _ _ => True := by
    refine obeys_beside ?_ ?_ (marker_lasts user.id otp) _ (fun _ _ _ _ holds _ => holds)
      fun _ _ _ _ holds => OneTime.marked_cons.mpr (.inr holds) <;> rfl
  -- a refusal counts the failure and raises
  have refused (message : String) : (totpOnce env user.id otp).discipline.Obeys (fun _ => True)
      (do
        RateLimiter.recordFailure env (lockId user.id) none
        throw (.auth message) : App T Unit)
      (fun _ vantage => (totpOnce env user.id otp).Marked vantage.log) fun _ _ => True :=
    (obeys_totp_beside env user otp _).bind fun _ => .throw fun _ _ => trivial
  simp only [verifyTotp, throw_bind]
  refine unlocked.bind fun _ => (obeys_enabledRecord env user otp).bind fun record => ?_
  unfold TwoFactorService.decrypt
  cases decrypted : env.decrypt record.encryptedSecret with
  | none => exact .throw fun _ _ => trivial
  | some secret =>
    have found (vantage : Vantage (Command T) Command.Res AppError (Transaction T) (Shared T))
        (stored : vantage.since.committed.twoFactorAuth.find user.id = some record) :
        vantage.since.totpSecret env user.id = some secret := by
      rw [Shared.totpSecret, stored, Option.bind_some, decrypted]
    refine ((obeys_present env user otp secret).enter found).bind
      fun used => .ite (fun _ => (refused _).enter fun _ _ => trivial) fun unused => ?_
    refine ((obeys_now env user otp secret).enter fun _ seen =>
      seen (Bool.not_eq_true _ ▸ unused)).bind
      fun instant => .ite (fun _ => (refused _).enter fun _ _ => trivial) fun valid => ?_
    exact ((obeys_setKey env user otp).enter fun _ passed => passed (by simpa using valid)).bind
      fun _ => cleared

end

/-! ## Calls at the same time -/

section
variable {ι : Type} [DecidableEq ι]

/-- Calls of `verify_totp` for one user with one code. -/
def totpCalls (ι : Type) [DecidableEq ι] (env : Environment T) (user : User T) (otp : String) :
    System (Pool ι (Command T) Command.Res AppError Unit (Transaction T) (Shared T)) (Option ι) :=
  interleavings concurrently (Shared.Elsewhere (.otpUsed user.id otp))
    (fun _ => verifyTotp env user otp) (fun _ => {}) fun _ => True

/-- Callbacks with one state, up to the end of `_pop_state`. -/
def stateCalls (state : String) (providerName : ι → String) :
    System (Pool ι (Command T) Command.Res AppError OAuthState (Transaction T) (Shared T))
      (Option ι) :=
  interleavings concurrently (Shared.Elsewhere (.oauthState state))
    (fun i => popState state (providerName i)) (fun _ => {}) fun _ => True

/-- In the runs in which no call looks while another one is between its look and its mark, at most
one call succeeds. -/
theorem redis_values_honoured_once (env : Environment T) :
    (∀ user otp pool,
      ((totpCalls ι env user otp).guarded (totpOnce env user.id otp).OneAtATime).Reachable pool →
      pool.AtMostOneReturned) ∧
    ∀ state (providerName : ι → String) (pool : Pool ι (Command T) Command.Res AppError OAuthState
        (Transaction T) (Shared T)),
      ((stateCalls state providerName).guarded (stateOnce state).OneAtATime).Reachable pool →
      pool.AtMostOneReturned := by
  constructor
  · intro user otp pool reachable
    refine OneTime.at_most_once (totpOnce env user.id otp) reachable (fun _ => ?_)
      fun before after elsewhere => ?_
    · exact (obeys_verifyTotp env user otp).enter fun _ fresh => fresh.1
    · exact ⟨elsewhere.toLater, marker_lasts user.id otp before after elsewhere⟩
  · intro state providerName pool reachable
    refine OneTime.at_most_once (stateOnce state) reachable
      (fun i => obeys_popState state (providerName i)) fun before after elsewhere => ?_
    exact ⟨elsewhere.toLater, state_lasts state before after elsewhere⟩

end

/-! ## Two calls -/

/-- Two calls that have not begun. -/
def bothCalls {α : Type} (program : App ℚ α) :
    Pool Bool (Command ℚ) Command.Res AppError α (Transaction ℚ) (Shared ℚ) :=
  ⟨fun _ => ⟨program, {}, []⟩, aliceAuthorizes.shared⟩

def aliceTotp : Pool Bool (Command ℚ) Command.Res AppError Unit (Transaction ℚ) (Shared ℚ) :=
  bothCalls (verifyTotp demo alice aliceOtp)

def aliceState : String := "url-safe-token-9"

def aliceCallbacks : Pool Bool (Command ℚ) Command.Res AppError OAuthState (Transaction ℚ) (Shared ℚ) :=
  bothCalls (popState aliceState "google")

/-- One call has its turns while the other one has not begun or has ended, and the marker has not
lapsed. -/
def oneTotpCall (pool : Pool Bool (Command ℚ) Command.Res AppError Unit (Transaction ℚ) (Shared ℚ))
    (turn : Bool) : Bool :=
  (pool.threads !turn).idle && ((pool.shared.redis (.otpUsed alice.id aliceOtp)).isNone ||
    (pool.shared.redis.lookup pool.shared.clock (.otpUsed alice.id aliceOtp)).isSome)

theorem oneAtATime_of_oneTotpCall (pool) (turn : Bool) (safe : oneTotpCall pool turn = true) :
    (totpOnce demo alice.id aliceOtp).OneAtATime pool (some turn) := by
  obtain ⟨idle, live⟩ := (Bool.and_eq_true _ _).mp safe
  refine OneTime.oneAtATime_of_idle idle fun stored lapsed => ?_
  simp only [lapsed, Bool.or_eq_true, Option.isSome_none, Bool.false_eq_true, or_false,
    Option.isNone_iff_eq_none] at live
  simp [live] at stored

/-- One call after the other: the second finds the code marked, and the state gone. -/
theorem redis_values_honoured_once_in_turn :
    (aliceTotp.afterTurns concurrently oneTotpCall
      (List.replicate 7 false ++ List.replicate 5 true)).AtMostOneReturned ∧
    (aliceCallbacks.afterTurns concurrently (fun pool turn => (pool.threads !turn).idle)
      [false, false, true]).AtMostOneReturned := by
  constructor
  · refine (redis_values_honoured_once demo).1 alice aliceOtp _ ?_
    exact Pool.reachable_afterTurns trivial oneAtATime_of_oneTotpCall (by decide +kernel)
  · refine (redis_values_honoured_once demo).2 aliceState (fun _ => "google") _ ?_
    exact Pool.reachable_afterTurns trivial
      (fun pool turn idle => OneTime.oneAtATime_of_idle idle trivial) (by decide +kernel)

/-- Both calls ask before either marks: they succeed with one code, and with one state. -/
theorem redis_values_honoured_twice :
    (¬ ∀ pool, (totpCalls Bool demo alice aliceOtp).Reachable pool → pool.AtMostOneReturned) ∧
    ¬ ∀ pool, (stateCalls (T := ℚ) aliceState fun _ : Bool => "google").Reachable pool →
      pool.AtMostOneReturned := by
  have totp : (totpCalls Bool demo alice aliceOtp).Reachable (aliceTotp.afterTurns concurrently
      (fun _ _ => true) [false, false, false, true, true, true, false, false, false, false,
        true, true, true, true]) :=
    Pool.reachable_schedule trivial (by decide +kernel)
  have states : (stateCalls aliceState fun _ : Bool => "google").Reachable
      (aliceCallbacks.afterTurns concurrently (fun _ _ => true) [false, true, false, true]) :=
    Pool.reachable_schedule trivial (by decide +kernel)
  exact ⟨fun once => Pool.not_atMostOneReturned Bool.false_ne_true (by decide +kernel)
      (by decide +kernel) (once _ totp),
    fun once => Pool.not_atMostOneReturned Bool.false_ne_true (by decide +kernel)
      (by decide +kernel) (once _ states)⟩

end EnterpriseAuth
