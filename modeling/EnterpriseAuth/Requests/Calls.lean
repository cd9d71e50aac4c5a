import EnterpriseAuth.Effects.Conduct
import EnterpriseAuth.Api.System

/-!
# The commands that a handler calls

`Calls allowed program` says that a handler calls none but the allowed commands, whatever it is
answered.  The class of allowed commands is a parameter: an argument about requests that run at the
same time picks the commands that do not touch what the argument is about, and the instances find
the handlers that call nothing else.
-/

namespace EnterpriseAuth

open Effects Program

variable {T : Type} {allowed : Command T → Prop}

class Calls (allowed : Command T → Prop) {α : Type} (program : App T α) : Prop where
  every : program.Every allowed fun _ => True

class Admits (allowed : Command T → Prop) (command : Command T) : Prop where
  admits : allowed command

/-- The key that a command of Redis is about. -/
def RedisCommand.key : RedisCommand → Key
  | .present key | .get key | .set key _ _ | .delete key | .incr key | .expire key _ => key

/-- All commands on the key are allowed. -/
class Opens (allowed : Command T → Prop) (key : Key) : Prop where
  opens : ∀ command : RedisCommand, command.key = key → allowed (.redis command)

instance (key : Key) [opened : Opens allowed key] : Admits allowed (.redis (.delete key)) :=
  ⟨opened.opens _ rfl⟩

namespace Calls

variable {α β : Type}

instance pure (value : α) : Calls allowed (Pure.pure value : App T α) := ⟨trivial⟩

instance throw (error : AppError) : Calls allowed (throw error : App T α) := ⟨trivial⟩

instance bind {program : App T α} {rest : α → App T β} [first : Calls allowed program]
    [second : ∀ value, Calls allowed (rest value)] : Calls allowed (program >>= rest) :=
  ⟨first.every.sequence fun value => (second value).every⟩

/-- The bind rule for a continuation that is examined by hand. -/
theorem sequence {program : App T α} {rest : α → App T β} [Calls allowed program]
    (second : ∀ value, Calls allowed (rest value)) : Calls allowed (program >>= rest) :=
  bind

instance map {transform : α → β} {program : App T α} [first : Calls allowed program] :
    Calls allowed (transform <$> program) :=
  ⟨Every.map first.every⟩

instance tryCatch {program : App T α} {recover : AppError → App T α}
    [first : Calls allowed program] [second : ∀ error, Calls allowed (recover error)] :
    Calls allowed (MonadExcept.tryCatch program recover) :=
  ⟨first.every.tryCatch fun error => (second error).every⟩

instance ite {condition : Prop} [Decidable condition] {first second : App T α}
    [holds : Calls allowed first] [fails : Calls allowed second] :
    Calls allowed (if condition then first else second) :=
  ⟨Every.ite (fun _ => holds.every) fun _ => fails.every⟩

theorem of_call {command : Command T} (admits : allowed command) : Calls allowed (call command) :=
  ⟨Every.call admits fun _ => trivial⟩

/-! ## Commands -/

instance now [admitted : Admits allowed .now] : Calls allowed (now : App T T) :=
  of_call admitted.admits

instance uuid4 [admitted : Admits allowed .draw] : Calls allowed (uuid4 : App T Uuid) :=
  of_call admitted.admits

instance view [admitted : Admits allowed .view] : Calls allowed (view : App T (Database T)) :=
  of_call admitted.admits

instance write (change : Database T → Except AppError (Database T))
    [admitted : Admits allowed (.write change)] : Calls allowed (write change : App T Unit) :=
  of_call admitted.admits

instance commit [admitted : Admits allowed .commit] : Calls allowed (commit : App T Unit) :=
  of_call admitted.admits

instance commitAfterResponse [Admits allowed .commit] :
    Calls allowed (commitAfterResponse : App T Unit) := by
  unfold EnterpriseAuth.commitAfterResponse; infer_instance

instance addTask (mail : Mail) [admitted : Admits allowed (.addTask mail)] :
    Calls allowed (addTask mail : App T Unit) :=
  of_call admitted.admits

instance deleteKey (key : Key) [admitted : Admits allowed (.redis (.delete key))] :
    Calls allowed (deleteKey key : App T Unit) :=
  of_call admitted.admits

section
variable (key : Key) [opened : Opens allowed key]

instance present : Calls allowed (present key : App T Bool) := of_call (opened.opens _ rfl)
instance getKey : Calls allowed (getKey key : App T _) := of_call (opened.opens _ rfl)
instance incrKey : Calls allowed (incrKey key : App T ℕ) := of_call (opened.opens _ rfl)

instance setKey (value : RedisValue) (ex : ℕ) : Calls allowed (setKey key value ex : App T Unit) :=
  of_call (opened.opens _ rfl)

instance expireKey (seconds : ℕ) : Calls allowed (expireKey key seconds : App T Unit) :=
  of_call (opened.opens _ rfl)

end

/-! ## Rate limits -/

section
open RateLimiter

instance hit (key : String) (limit windowSeconds : ℕ) [Opens allowed (.rateLimit key)] :
    Calls allowed (RateLimiter.hit key limit windowSeconds : App T Unit) := by
  unfold RateLimiter.hit; infer_instance

variable (env : Environment T) (identifier : String) (ip : Option String)
  [Opens allowed (lockoutKey env identifier ip)]

instance ensureNotLocked : Calls allowed (RateLimiter.ensureNotLocked env identifier ip) := by
  unfold RateLimiter.ensureNotLocked; infer_instance

variable [Opens allowed (failcountKey env identifier ip)]

instance recordFailure : Calls allowed (RateLimiter.recordFailure env identifier ip) := by
  unfold RateLimiter.recordFailure; infer_instance

instance clearFailures : Calls allowed (RateLimiter.clearFailures env identifier ip) := by
  unfold RateLimiter.clearFailures; infer_instance

end

/-! ## Checks of the routes -/

section
variable (env : Environment T) (request : HttpRequest)

instance checkSchema (accepted : Bool) : Calls allowed (checkSchema accepted : App T Unit) := by
  unfold EnterpriseAuth.checkSchema; infer_instance

instance checkEmail (email : String) : Calls allowed (checkEmail env email) := by
  unfold EnterpriseAuth.checkEmail
  split <;> infer_instance

instance validatePasswordStrength (password : String) :
    Calls allowed (validatePasswordStrength env password) := by
  unfold EnterpriseAuth.validatePasswordStrength; infer_instance

variable [∀ key, Opens allowed (.rateLimit key)]

instance authRateLimit : Calls allowed (authRateLimit env request) := by
  unfold EnterpriseAuth.authRateLimit; infer_instance

instance emailRateLimit : Calls allowed (emailRateLimit env request) := by
  unfold EnterpriseAuth.emailRateLimit; infer_instance

instance rateLimitMiddleware : Calls allowed (rateLimitMiddleware env request) := by
  unfold EnterpriseAuth.rateLimitMiddleware; infer_instance

end

/-! ## Sessions -/

section
variable [CommRing T] [LinearOrder T] [FloorRing T] [Admits allowed .now] [Admits allowed .draw]
  (env : Environment T)

instance createToken (subject : Uuid) (type : TokenType) (lifetimeSeconds : ℕ) (sid : Option Uuid)
    (rememberMe : Bool) :
    Calls allowed (createToken subject type lifetimeSeconds sid rememberMe : App T Claims) := by
  unfold EnterpriseAuth.createToken; infer_instance

instance issuePair (userId : Uuid) (rememberMe : Bool) (sessionId : Option Uuid) :
    Calls allowed (TokenService.issuePair env userId rememberMe sessionId) := by
  unfold TokenService.issuePair; infer_instance

variable [Admits allowed .view]

omit [CommRing T] [LinearOrder T] [FloorRing T] [Admits allowed .now] [Admits allowed .draw] in
instance userRead (user : User T) : Calls allowed (userRead env user) := by
  unfold EnterpriseAuth.userRead
  refine sequence fun db => ?_
  cases env.validEmail user.email <;> infer_instance

variable [∀ session, Admits allowed (.write (Database.insertSession session))]
  [∀ sid, Opens allowed (.sessionActive sid)]

instance createSession (user : User T) (sessionUuid refreshJti : Uuid) (rememberMe : Bool)
    (ip userAgent : String) (headers : Headers) :
    Calls allowed (SessionService.createSession env user sessionUuid refreshJti rememberMe ip userAgent
      headers) := by
  unfold SessionService.createSession SessionService.expiry SessionService.setActive; infer_instance

instance finalizeLogin [∀ mail, Admits allowed (.addTask mail)] (request : HttpRequest)
    (user : User T) (rememberMe : Bool) :
    Calls allowed (finalizeLogin env request user rememberMe) := by
  unfold EnterpriseAuth.finalizeLogin
  refine sequence fun sessionUuid => sequence fun minted => sequence fun created => ?_
  split
  infer_instance

end

end Calls

end EnterpriseAuth
