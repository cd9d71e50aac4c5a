import EnterpriseAuth.Api.Failures
import EnterpriseAuth.Requests.Conduct
import EnterpriseAuth.Requests.TwoFactor
import EnterpriseAuth.Guarantees.Scenario

/-!
# Failing closed

The checks that guard the service send their commands to Redis while they decide, and forget the
counted failures once they have decided.  A command of the first kind that fails ends the check with
an error; a failure of the second kind is swallowed, and changes nothing that the rest of the check
looks at.  So no fault of Redis turns a refusal into an acceptance.
-/

namespace EnterpriseAuth

open Effects Program RateLimiter TwoFactorService

set_option synthInstance.maxSize 1000

variable {T : Type}

/-! ## The checks -/

inductive SecurityCheck (T : Type) where
  | authenticate (email password ip : String)
  | verifyTotp (user : User T) (otp : String)
  | consumeRecoveryCode (user : User T) (code : String)
  | rotate (refreshToken : Token)
  | validateAndTouch (sessionUuid userId : Uuid)
  | popState (state providerName : String)
  | hit (key : String) (limit windowSeconds : ℕ)

section
variable [CommRing T] [LinearOrder T] [FloorRing T] (env : Environment T)

def SecurityCheck.program : SecurityCheck T → App T Unit
  | .authenticate email password ip =>
    (fun _ => ()) <$> AuthService.authenticate env email password ip
  | .verifyTotp user otp => TwoFactorService.verifyTotp env user otp
  | .consumeRecoveryCode user code => TwoFactorService.consumeRecoveryCode env user code
  | .rotate refreshToken => (fun _ => ()) <$> TokenService.rotate env refreshToken
  | .validateAndTouch sessionUuid userId =>
    (fun _ => ()) <$> SessionService.validateAndTouch env sessionUuid userId
  | .popState state providerName => (fun _ => ()) <$> OAuthService.popState state providerName
  | .hit key limit windowSeconds => RateLimiter.hit key limit windowSeconds

end

/-! ## Programs that do not survive a fault -/

/-- The program returns nothing, whatever it is answered. -/
class Refuses {α : Type} (program : App T α) : Prop where
  fails : program.Fails

/-- A fault of Redis ends the program with an error. -/
class Strict {α : Type} (program : App T α) : Prop where
  propagates : program.Propagates redisFaults

namespace Refuses

variable {α β : Type}

instance throw (error : AppError) : Refuses (throw error : App T α) := ⟨trivial⟩

instance bind {program : App T α} {rest : α → App T β} [refuses : ∀ value, Refuses (rest value)] :
    Refuses (program >>= rest) :=
  ⟨Every.skip fun value => (refuses value).fails⟩

instance ite {condition : Prop} [Decidable condition] {first second : App T α}
    [holds : Refuses first] [fails : Refuses second] :
    Refuses (if condition then first else second) :=
  ⟨Every.ite (fun _ => holds.fails) fun _ => fails.fails⟩

end Refuses

namespace Strict

variable {α β : Type}

instance pure (value : α) : Strict (Pure.pure value : App T α) := ⟨trivial⟩
instance throw (error : AppError) : Strict (throw error : App T α) := ⟨trivial⟩

instance bind {program : App T α} {rest : α → App T β} [first : Strict program]
    [second : ∀ value, Strict (rest value)] : Strict (program >>= rest) :=
  ⟨first.propagates.bind fun value => (second value).propagates⟩

instance map {transform : α → β} {program : App T α} [first : Strict program] :
    Strict (transform <$> program) :=
  ⟨first.propagates.bind fun _ => trivial⟩

instance tryCatch {program : App T α} {recover : AppError → App T α} [first : Strict program]
    [fails : ∀ error, Refuses (recover error)] [second : ∀ error, Strict (recover error)] :
    Strict (MonadExcept.tryCatch program recover) :=
  ⟨first.propagates.tryCatch (fun error => (fails error).fails) fun error =>
    (second error).propagates⟩

instance ite {condition : Prop} [Decidable condition] {first second : App T α}
    [holds : Strict first] [fails : Strict second] : Strict (if condition then first else second) :=
  ⟨Propagates.ite (fun _ => holds.propagates) fun _ => fails.propagates⟩

instance now : Strict (now : App T T) := ⟨Propagates.call _⟩
instance uuid4 : Strict (uuid4 : App T Uuid) := ⟨Propagates.call _⟩
instance view : Strict (view : App T (Database T)) := ⟨Propagates.call _⟩
instance commit : Strict (commit : App T Unit) := ⟨Propagates.call _⟩
instance present (key : Key) : Strict (present key : App T Bool) := ⟨Propagates.call _⟩
instance getKey (key : Key) : Strict (getKey key : App T _) := ⟨Propagates.call _⟩
instance deleteKey (key : Key) : Strict (deleteKey key : App T Unit) := ⟨Propagates.call _⟩
instance incrKey (key : Key) : Strict (incrKey key : App T ℕ) := ⟨Propagates.call _⟩

instance setKey (key : Key) (value : RedisValue) (ex : ℕ) :
    Strict (setKey key value ex : App T Unit) :=
  ⟨Propagates.call _⟩

instance expireKey (key : Key) (seconds : ℕ) : Strict (expireKey key seconds : App T Unit) :=
  ⟨Propagates.call _⟩

instance write (change : Database T → Except AppError (Database T)) :
    Strict (write change : App T Unit) :=
  ⟨Propagates.call _⟩

variable (env : Environment T)

instance ensureNotLocked (identifier : String) (ip : Option String) :
    Strict (ensureNotLocked env identifier ip) := by
  unfold RateLimiter.ensureNotLocked; infer_instance

instance hit (key : String) (limit windowSeconds : ℕ) :
    Strict (hit key limit windowSeconds : App T Unit) := by
  unfold RateLimiter.hit; infer_instance

instance getByEmail (email : String) : Strict (getByEmail env email) := by
  unfold EnterpriseAuth.getByEmail
  refine @bind _ _ _ _ _ view fun db => ?_
  cases db.getByEmail env email <;> infer_instance

instance decrypt (ciphertext : String) : Strict (decrypt env ciphertext) := by
  unfold TwoFactorService.decrypt
  cases env.decrypt ciphertext <;> infer_instance

instance enabledRecord (user : User T) : Strict (enabledRecord user) := by
  unfold TwoFactorService.enabledRecord
  refine @bind _ _ _ _ _ view fun db => ?_
  cases db.twoFactorAuth.find user.id <;> infer_instance

instance consumeFirst (normalized : String) (candidates : List (BackupCode T)) :
    Strict (consumeFirst env normalized candidates) := by
  induction candidates with
  | nil => unfold TwoFactorService.consumeFirst; infer_instance
  | cons candidate candidates inductionHypothesis =>
    unfold TwoFactorService.consumeFirst
    infer_instance

section
variable [CommRing T] [LinearOrder T]

instance decodeToken (token : Token) (expected : TokenType) :
    Strict (decodeToken token expected : App T Claims) := by
  unfold EnterpriseAuth.decodeToken
  cases token <;> infer_instance

instance rotate [FloorRing T] (refreshToken : Token) :
    Strict (TokenService.rotate env refreshToken) := by
  unfold TokenService.rotate TokenService.verifyRefresh TokenService.isRevoked TokenService.revoke
    TokenService.issuePair createToken
  infer_instance

instance touch (record : Session T) (now : T) : Strict (SessionService.touch env record now) := by
  unfold SessionService.touch SessionService.setActive
  infer_instance

instance validateAndTouch (sessionUuid userId : Uuid) :
    Strict (SessionService.validateAndTouch env sessionUuid userId) := by
  simp only [SessionService.validateAndTouch, throw_bind]
  refine @bind _ _ _ _ _ _ fun revoked => ?_
  refine @ite _ _ _ _ _ _ _ (@bind _ _ _ _ _ _ fun db => ?_)
  cases db.sessions.find sessionUuid with
  | none => infer_instance
  | some record =>
    unfold SessionService.expire SessionService.clearCache
    infer_instance

end

instance popState (state providerName : String) :
    Strict (OAuthService.popState state providerName : App T OAuthState) := by
  unfold OAuthService.popState
  refine @bind _ _ _ _ _ _ fun stored => ?_
  cases stored with
  | none => infer_instance
  | some value => cases value <;> infer_instance

end Strict

/-! ## Checks that fail closed -/

/-- The servers differ in what Redis holds at most. -/
def Server.BesidesRedis (server other : Server T) : Prop :=
  ∃ redis, other = { server with redis }

/-- The code is marked as used until the deadline. -/
def Server.Marks (userId : Uuid) (otp : String) (deadline : T) (server : Server T) : Prop :=
  server.redis (.otpUsed userId otp) = some ⟨.flag, some deadline⟩

/-- The command has nothing to do with Redis. -/
def Command.AsideRedis : Command T → Prop
  | .redis _ => False
  | _ => True

/-- The command forgets failures or the lock. -/
def Command.Forgets (command : Command T) : Prop :=
  ∃ subject, command = .redis (.delete (.failcount subject)) ∨
    command = .redis (.delete (.lockout subject))

section
variable [CommRing T] [LinearOrder T] {α β : Type}

/-- What the program returns under faults it returns without faults as well, from a server that is
related to the one before and leaving one that is related to the one after. -/
def FailsClosed (before : Server T → Server T → Prop) (program : App T α)
    (after : Server T → Server T → Prop) : Prop :=
  ∀ faulty server value final, before faulty.state server →
    program.run (handle.faulty redisFaults) faulty = (.ok value, final) →
    ∃ other, program.run handle server = (.ok value, other) ∧ after final.state other

namespace FailsClosed

variable {before middle after : Server T → Server T → Prop}

theorem of_refuses {program : App T α} [refuses : Refuses program] :
    FailsClosed before program after :=
  fun _ _ _ _ _ returned => absurd returned refuses.fails.not_ok

theorem of_strict (program : App T α) [strict : Strict program] : FailsClosed Eq program Eq := by
  rintro faulty _ value final rfl returned
  exact ⟨final.state, strict.propagates.run_of_faulty returned, rfl⟩

theorem pure (value : α) : FailsClosed before (Pure.pure value : App T α) before := by
  rintro faulty server _ _ related ⟨⟩
  exact ⟨server, rfl, related⟩

theorem bind {program : App T α} {rest : α → App T β} (first : FailsClosed before program middle)
    (second : ∀ value, FailsClosed middle (rest value) after) :
    FailsClosed before (program >>= rest) after := by
  intro faulty server value final related returned
  obtain ⟨result, between, ran, rest⟩ := run_bind_ok returned
  obtain ⟨other, alsoRan, related⟩ := first faulty server result between related ran
  obtain ⟨last, alsoRest, related⟩ := second result between other value final related rest
  refine ⟨last, ?_, related⟩
  rw [run_bind, alsoRan]
  exact alsoRest

theorem map {transform : α → β} {program : App T α} (first : FailsClosed before program after) :
    FailsClosed before (transform <$> program) after :=
  FailsClosed.bind first fun _ => pure _

theorem ite {condition : Prop} [Decidable condition] {first second : App T α}
    (holds : FailsClosed before first after) (fails : FailsClosed before second after) :
    FailsClosed before (if condition then first else second) after := by
  by_cases decided : condition
  · simpa [decided] using holds
  · simpa [decided] using fails

/-- A strict step before the rest. -/
theorem strictly {program : App T α} {rest : α → App T β} [Strict program]
    (second : ∀ value, FailsClosed Eq (rest value) after) :
    FailsClosed Eq (program >>= rest) after :=
  (of_strict program).bind second

end FailsClosed

theorem handle_asideRedis {command : Command T} (aside : command.AsideRedis) (server : Server T)
    (redis : RedisStore T) :
    handle command { server with redis } =
      ((handle command server).1, { (handle command server).2 with redis }) := by
  cases command with
  | redis => exact absurd aside id
  | write change =>
    simp only [handle]
    cases change server.working <;> rfl
  | now | draw | view | commit | addTask => rfl

/-- A program that has nothing to do with Redis runs as if Redis held something else. -/
theorem run_asideRedis {program : App T α} {returned : α → Prop}
    (aside : program.Every Command.AsideRedis returned) (server : Server T) (redis : RedisStore T) :
    program.run handle { server with redis } =
      ((program.run handle server).1, { (program.run handle server).2 with redis }) := by
  induction program generalizing server with
  | pure value => rfl
  | throw error => rfl
  | perform command next inductionHypothesis =>
    change (next (handle command { server with redis }).1).run handle
      (handle command { server with redis }).2 = _
    rw [handle_asideRedis aside.1]
    exact inductionHypothesis _ (aside.2 _) _

theorem failsClosed_asideRedis {program : App T α}
    (aside : program.Every Command.AsideRedis fun _ => True) :
    FailsClosed Server.BesidesRedis program Server.BesidesRedis := by
  rintro faulty _ value final ⟨redis, rfl⟩ ran
  have infallible : program.Every (fun command => redisFaults.error command = none)
      fun _ => True := by
    refine aside.mono (fun command aside => ?_) fun _ => id
    cases command with
    | redis => exact absurd aside id
    | now | draw | view | write | commit | addTask => rfl
  rw [infallible.run_faulty] at ran
  obtain ⟨replied, rfl⟩ := Prod.mk.inj ran
  rw [run_asideRedis aside, replied]
  exact ⟨_, rfl, redis, rfl⟩

variable {env : Environment T}

omit [CommRing T] [LinearOrder T] in
theorem forgets_clearFailures (identifier : String) (ip : Option String) :
    (clearFailures env identifier ip).Every Command.Forgets fun _ => True := by
  have counter : (deleteKey (failcountKey env identifier ip) : App T Unit).Every Command.Forgets
      fun _ => True := Every.call ⟨_, .inl rfl⟩ fun _ => trivial
  have lock : (deleteKey (lockoutKey env identifier ip) : App T Unit).Every Command.Forgets
      fun _ => True := Every.call ⟨_, .inr rfl⟩ fun _ => trivial
  refine (counter.sequence fun _ => lock).tryCatch fun error => ?_
  exact Every.ite (fun _ => Every.pure trivial) fun _ => Every.throw _

/-- Failures are forgotten, or not, and the rest of the check does not know. -/
theorem failsClosed_clearFailures (identifier : String) (ip : Option String) :
    FailsClosed Eq (clearFailures env identifier ip) Server.BesidesRedis := by
  rintro faulty _ value final rfl ran
  have keeps : Keeps (handle.faulty redisFaults)
      (fun other : Faulty (Server T) => faulty.state.BesidesRedis other.state)
      (clearFailures env identifier ip) := by
    refine (forgets_clearFailures identifier ip).keeps_faulty ?_
    rintro _ server ⟨subject, rfl | rfl⟩ ⟨redis, rfl⟩
    · exact ⟨redis.remove (.failcount subject), rfl⟩
    · exact ⟨redis.remove (.lockout subject), rfl⟩
  have start : faulty.state.BesidesRedis faulty.state := ⟨faulty.state.redis, rfl⟩
  obtain ⟨redis, left⟩ : faulty.state.BesidesRedis final.state := keeps.returned start ran
  have cleared := run_clearFailures env identifier ip faulty.state
  refine ⟨_, cleared, ?_⟩
  rw [left]
  exact ⟨_, rfl⟩

/-- A failed attempt is answered with an error, whether it could be recorded or not. -/
theorem failsClosed_reject {before after : Server T → Server T → Prop} (program : App T β)
    (error : AppError) :
    FailsClosed before (program >>= fun _ => throw error : App T α) after :=
  .of_refuses

theorem failsClosed_authenticate (email password ip : String) :
    FailsClosed Eq (AuthService.authenticate env email password ip) Server.BesidesRedis := by
  simp only [AuthService.authenticate, throw_bind]
  refine .strictly fun _ => .strictly fun user => .strictly fun salt => ?_
  cases user with
  | none => exact failsClosed_reject _ _
  | some user =>
    cases env.verifyPassword password user.hashedPassword with
    | false => exact failsClosed_reject _ _
    | true =>
      refine .ite .of_refuses (.bind (failsClosed_clearFailures email (some ip)) fun _ => ?_)
      refine .ite (failsClosed_asideRedis ?_) (.pure user)
      refine Every.sequence (Every.call trivial fun _ => trivial) fun rehash => ?_
      exact Every.sequence (Every.call trivial fun _ => trivial) fun _ => Every.pure trivial

theorem failsClosed_verifyTotp (user : User T) (otp : String) :
    FailsClosed Eq (TwoFactorService.verifyTotp env user otp) Server.BesidesRedis := by
  simp only [TwoFactorService.verifyTotp, throw_bind]
  refine .strictly fun _ => .strictly fun record => .strictly fun secret => .strictly fun used => ?_
  refine .ite (failsClosed_reject _ _) (.strictly fun now => ?_)
  exact .ite (failsClosed_reject _ _) (.strictly fun _ => failsClosed_clearFailures _ _)

theorem failsClosed_consumeRecoveryCode (user : User T) (code : String) :
    FailsClosed Eq (TwoFactorService.consumeRecoveryCode env user code) Server.BesidesRedis := by
  unfold TwoFactorService.consumeRecoveryCode
  refine .strictly fun _ => .strictly fun db => .strictly fun found => ?_
  exact .ite (failsClosed_clearFailures _ _) (failsClosed_reject _ _)

variable [FloorRing T]

variable (env) in
theorem failsClosed_program (check : SecurityCheck T) :
    ∃ after, FailsClosed Eq (check.program env) after := by
  cases check with
  | authenticate email password ip => exact ⟨_, (failsClosed_authenticate email password ip).map⟩
  | verifyTotp user otp => exact ⟨_, failsClosed_verifyTotp user otp⟩
  | consumeRecoveryCode user code => exact ⟨_, failsClosed_consumeRecoveryCode user code⟩
  | rotate refreshToken => exact ⟨_, (FailsClosed.of_strict (TokenService.rotate env refreshToken)).map⟩
  | validateAndTouch sessionUuid userId =>
    exact ⟨_, (FailsClosed.of_strict (SessionService.validateAndTouch env sessionUuid userId)).map⟩
  | popState state providerName =>
    exact ⟨_, (FailsClosed.of_strict (OAuthService.popState state providerName)).map⟩
  | hit key limit windowSeconds =>
    exact ⟨_, FailsClosed.of_strict (RateLimiter.hit key limit windowSeconds)⟩

omit [FloorRing T] in
/-- The clock stands still during a call, whatever fails. -/
theorem clock_of_faulty {instant : T} (program : App T α) :
    Triple (handle.faulty redisFaults) (fun faulty => faulty.state.clock = instant) program
      (fun _ faulty => faulty.state.clock = instant) fun _ _ => True := by
  have keeps : Keeps (handle.faulty redisFaults)
      (fun faulty : Faulty (Server T) => faulty.state.clock = instant) program :=
    (Every.anything program).keeps_faulty fun command server _ same =>
      (clock_handle command server).trans same
  exact keeps.weaken (fun _ => id) (fun _ _ => id) fun _ _ _ => trivial

omit [FloorRing T] in
/-- A code is accepted only once its marker has been written. -/
theorem marker_of_verifyTotp (user : User T) (otp : String) (instant : T) :
    Triple (handle.faulty redisFaults) (fun faulty => faulty.state.clock = instant)
      (TwoFactorService.verifyTotp env user otp)
      (fun _ faulty => faulty.state.Marks user.id otp (instant + (replayTtl env : ℕ)))
      fun _ _ => True := by
  simp only [TwoFactorService.verifyTotp, throw_bind]
  refine .bind (clock_of_faulty _) fun _ => .bind (clock_of_faulty _) fun record =>
    .bind (clock_of_faulty _) fun secret => .bind (clock_of_faulty _) fun used => ?_
  have rejects (message : String) : Triple (handle.faulty redisFaults)
      (fun faulty : Faulty (Server T) => faulty.state.clock = instant)
      (do recordFailure env (lockId user.id) none; throw (.auth message) : App T Unit)
      (fun _ faulty => faulty.state.Marks user.id otp (instant + (replayTtl env : ℕ)))
      fun _ _ => True :=
    .skip fun _ => .throw fun _ _ => trivial
  refine .ite (fun _ => rejects _) fun _ => .bind (clock_of_faulty _) fun now => ?_
  refine .ite (fun _ => rejects _) fun _ => ?_
  -- a failed SET aborts the verification, so a success has written the marker
  have marks : Triple (handle.faulty redisFaults)
      (fun faulty : Faulty (Server T) => faulty.state.clock = instant)
      (setKey (.otpUsed user.id otp) .flag (replayTtl env) : App T Unit)
      (fun _ faulty => faulty.state.Marks user.id otp (instant + (replayTtl env : ℕ)))
      fun _ _ => True := by
    constructor
    rintro faulty rfl
    rw [setKey, EnterpriseAuth.call, run_call]
    obtain ⟨plan, works⟩ | ⟨error, left, plan, -, fails, -⟩ := faulty_cases handle redisFaults
      (Command.redis (.set (.otpUsed user.id otp) .flag (replayTtl env))) faulty
    · rw [works]
      simp [Faulty.work, handle, RedisCommand.execute, replayTtl_ne_zero, ExpiringStore.put,
        Server.Marks]
    · rw [fails]
      trivial
  refine marks.bind fun _ => ?_
  have keeps : Keeps (handle.faulty redisFaults)
      (fun faulty : Faulty (Server T) =>
        faulty.state.Marks user.id otp (instant + (replayTtl env : ℕ)))
      (clearFailures env (lockId user.id) none) := by
    refine (forgets_clearFailures _ _).keeps_faulty ?_
    rintro _ server ⟨subject, rfl | rfl⟩ marked
    · simpa [handle, RedisCommand.execute, ExpiringStore.remove, Server.Marks] using marked
    · simpa [handle, RedisCommand.execute, ExpiringStore.remove, Server.Marks] using marked
  exact keeps.weaken (fun _ => id) (fun _ _ => id) fun _ _ _ => trivial

/-- No choice of faults of Redis makes a check accept what it would have refused, and an accepted
code has been marked as used. -/
theorem fail_closed (check : SecurityCheck T) (server : Server T) (plan : List Fate)
    {final : Faulty (Server T)}
    (accepted : (check.program env).run (handle.faulty redisFaults) { state := server, plan } =
      (.ok (), final)) :
    (∃ other, (check.program env).run handle server = (.ok (), other)) ∧
      ∀ user otp, check = .verifyTotp user otp →
        final.state.Marks user.id otp (server.clock + (replayTtl env : ℕ)) := by
  obtain ⟨after, closed⟩ := failsClosed_program env check
  obtain ⟨other, ran, -⟩ := closed { state := server, plan } server () final rfl accepted
  refine ⟨⟨other, ran⟩, ?_⟩
  rintro user otp rfl
  have marked : Triple (handle.faulty redisFaults) _ (TwoFactorService.verifyTotp env user otp) _ _ :=
    marker_of_verifyTotp user otp server.clock
  exact marked.returned rfl accepted

end

/-- Alice has switched her second factor on. -/
def aliceEnabled : Server ℚ :=
  { World.new.server with
    working := { twoFactorAuth := ⟨[{ userId := 1, encryptedSecret := "JBSWY3DP", enabled := true }],
      List.nodup_singleton _⟩ } }

def aliceChecked : SecurityCheck ℚ :=
  .verifyTotp { id := 1, email := "alice@example.org", hashedPassword := "$Str0ng!pass", createdAt := 0 }
    "100000"

/-- The code of Alice is accepted although her failures cannot be forgotten. -/
theorem fail_closed_for_alice :
    ∃ other, (aliceChecked.program demo).run handle aliceEnabled = (.ok (), other) := by
  have answered : ((aliceChecked.program demo).run (handle.faulty redisFaults)
      { state := aliceEnabled, plan := [.works, .works, .works, .raises] }).1.isOk := by
    decide +kernel
  obtain ⟨_, accepted⟩ := exists_ok answered
  exact (fail_closed aliceChecked aliceEnabled [.works, .works, .works, .raises]
    (Prod.ext accepted rfl)).1

end EnterpriseAuth
