import EnterpriseAuth.Effects.Program
import EnterpriseAuth.Effects.ExpiringStore
import EnterpriseAuth.Models
import Mathlib.Algebra.Order.Floor.Ring

/-!
# What a request runs against

A request handler is a `Program` over `Command`s: it reads the clock, draws randomness, sends
single commands to Redis, and reads and writes the database through one transaction.  `handle` is
the meaning of these commands for one request at a time.  The `Server` keeps the committed
database apart from the `working` one, in which the transaction sees its own writes.

Time is any ordered ring with a floor, so that the instants of a run may lie anywhere between two
whole seconds.  Libraries outside the repository are the fields of `Environment`.
-/

namespace EnterpriseAuth

open Effects

/-! ## Redis -/

inductive OAuthMode where
  | login | link
  deriving DecidableEq, Repr

/-- The JSON object that `start_authorization` stores under a state. -/
structure OAuthState where
  provider : String
  codeVerifier : Option String
  mode : OAuthMode
  linkUserId : Option Uuid
  deriving DecidableEq

/-- The keys of the application, one constructor for each key prefix. -/
inductive Key where
  | revokedJti (jti : Uuid)
  | sessionRevoked (sid : Uuid)
  | sessionTouch (sid : Uuid)
  | sessionActive (sid : Uuid)
  | rateLimit (key : String)
  | lockout (subject : String)
  | failcount (subject : String)
  | otpUsed (userId : Uuid) (otp : String)
  | oauthState (state : String)
  deriving DecidableEq

inductive RedisValue where
  | flag
  | count (value : ℕ)
  | oauth (payload : OAuthState)
  deriving DecidableEq

abbrev RedisStore (T : Type) := ExpiringStore Key RedisValue T

inductive RedisCommand where
  | present (key : Key)
  | get (key : Key)
  | set (key : Key) (value : RedisValue) (ex : ℕ)
  | delete (key : Key)
  | incr (key : Key)
  | expire (key : Key) (seconds : ℕ)

@[reducible] def RedisCommand.Res : RedisCommand → Type
  | .present _ => Bool
  | .get _ => Option RedisValue
  | .incr _ => ℕ
  | .set .. | .delete _ | .expire .. => Unit

section
variable {T : Type} [CommRing T] [LinearOrder T]

def RedisCommand.execute (now : T) :
    (command : RedisCommand) → RedisStore T → Except AppError command.Res × RedisStore T
  | .present key, store => (.ok (store.lookup now key).isSome, store)
  | .get key, store => (.ok (store.lookup now key), store)
  | .set key value ex, store =>
    if ex = 0 then (.error (.redis "invalid expire time in 'set' command"), store)
    else (.ok (), store.put key ⟨value, some (now + ex)⟩)
  | .delete key, store => (.ok (), store.remove key)
  | .incr key, store =>
    match store.lookup now key with
    | none => (.ok (1 : ℕ), store.put key ⟨.count 1, none⟩)
    | some (.count value) =>
      (.ok (value + 1), store.put key ⟨.count (value + 1), store.deadlineAt now key⟩)
    | some _ => (.error (.redis "value is not an integer or out of range"), store)
  | .expire key seconds, store =>
    match store.lookup now key with
    | none => (.ok (), store)
    | some value => (.ok (), store.put key ⟨value, some (now + seconds)⟩)

end

/-! ## Commands of a request -/

/-- Mail scheduled on the request's background tasks. -/
inductive Mail where
  | welcome (recipient fullName : String)
  | verification (recipient token : String)
  | passwordReset (recipient token : String)
  | passwordChanged (recipient : String)
  | emailChange (recipient token : String)
  | newDeviceAlert (recipient device browser ip : String)
  deriving DecidableEq

inductive Command (T : Type) where
  | now
  /-- A value that the generator of random values has not returned before. -/
  | draw
  | redis (command : RedisCommand)
  /-- What a query of the transaction sees. -/
  | view
  | write (change : Database T → Except AppError (Database T))
  | commit
  | addTask (mail : Mail)

@[reducible] def Command.Res {T : Type} : Command T → Type
  | .now => T
  | .draw => ℕ
  | .redis command => command.Res
  | .view => Database T
  | .write _ | .commit | .addTask _ => Unit

structure Server (T : Type) where
  committed : Database T
  working : Database T
  redis : RedisStore T
  clock : T
  draws : ℕ
  tasks : List Mail

abbrev App (T : Type) (α : Type) := Program (Command T) Command.Res AppError α

section
variable {T : Type} [CommRing T] [LinearOrder T]

def handle : Handler (Command T) Command.Res AppError (Server T)
  | .now, server => (.ok server.clock, server)
  | .draw, server => (.ok server.draws, { server with draws := server.draws + 1 })
  | .redis command, server =>
    let (reply, redis) := command.execute server.clock server.redis
    (reply, { server with redis })
  | .view, server => (.ok server.working, server)
  | .write change, server =>
    match change server.working with
    | .ok working => (.ok (), { server with working })
    | .error error => (.error error, server)
  | .commit, server => (.ok (), { server with committed := server.working })
  | .addTask mail, server => (.ok (), { server with tasks := server.tasks ++ [mail] })

end

section
variable {T : Type}

def call (command : Command T) : App T command.Res := Program.call command

def now : App T T := call .now
def uuid4 : App T Uuid := call .draw
def present (key : Key) : App T Bool := call (.redis (.present key))
def getKey (key : Key) : App T (Option RedisValue) := call (.redis (.get key))
def setKey (key : Key) (value : RedisValue) (ex : ℕ) : App T Unit :=
  call (.redis (.set key value ex))
def deleteKey (key : Key) : App T Unit := call (.redis (.delete key))
def incrKey (key : Key) : App T ℕ := call (.redis (.incr key))
def expireKey (key : Key) (seconds : ℕ) : App T Unit := call (.redis (.expire key seconds))
def view : App T (Database T) := call .view
def write (change : Database T → Except AppError (Database T)) : App T Unit :=
  call (.write change)
def commit : App T Unit := call .commit
def addTask (mail : Mail) : App T Unit := call (.addTask mail)

variable [CommRing T] [LinearOrder T] (server : Server T)

@[simp] theorem run_now : (now : App T T).run handle server = (.ok server.clock, server) :=
  Program.run_call _ _

@[simp] theorem run_uuid4 :
    (uuid4 : App T Uuid).run handle server =
      (.ok server.draws, { server with draws := server.draws + 1 }) :=
  Program.run_call _ _

@[simp] theorem run_present (key : Key) :
    (present key : App T Bool).run handle server =
      (.ok (server.redis.lookup server.clock key).isSome, server) :=
  Program.run_call _ _

@[simp] theorem run_getKey (key : Key) :
    (getKey key : App T _).run handle server =
      (.ok (server.redis.lookup server.clock key), server) :=
  Program.run_call _ _

theorem run_setKey (key : Key) (value : RedisValue) (ex : ℕ) :
    (setKey key value ex : App T Unit).run handle server =
      if ex = 0 then (.error (.redis "invalid expire time in 'set' command"), server)
      else (.ok (), { server with
        redis := server.redis.put key ⟨value, some (server.clock + ex)⟩ }) := by
  refine (Program.run_call _ _).trans ?_
  simp only [handle, RedisCommand.execute]
  split <;> rfl

@[simp] theorem run_setKey_of_pos (key : Key) (value : RedisValue) {ex : ℕ} (positive : ex ≠ 0) :
    (setKey key value ex : App T Unit).run handle server =
      (.ok (), { server with
        redis := server.redis.put key ⟨value, some (server.clock + ex)⟩ }) := by
  rw [run_setKey, if_neg positive]

@[simp] theorem run_deleteKey (key : Key) :
    (deleteKey key : App T Unit).run handle server =
      (.ok (), { server with redis := server.redis.remove key }) :=
  Program.run_call _ _

theorem run_incrKey (key : Key) :
    (incrKey key : App T ℕ).run handle server =
      (((RedisCommand.incr key).execute server.clock server.redis).1,
        { server with redis := ((RedisCommand.incr key).execute server.clock server.redis).2 }) :=
  Program.run_call _ _

theorem run_expireKey (key : Key) (seconds : ℕ) :
    (expireKey key seconds : App T Unit).run handle server =
      (((RedisCommand.expire key seconds).execute server.clock server.redis).1,
        { server with
          redis := ((RedisCommand.expire key seconds).execute server.clock server.redis).2 }) :=
  Program.run_call _ _

@[simp] theorem run_view :
    (view : App T (Database T)).run handle server = (.ok server.working, server) :=
  Program.run_call _ _

@[simp] theorem run_write (change : Database T → Except AppError (Database T)) :
    (write change : App T Unit).run handle server =
      match change server.working with
      | .ok working => (.ok (), { server with working })
      | .error error => (.error error, server) := by
  refine (Program.run_call _ _).trans ?_
  rfl

@[simp] theorem run_commit :
    (commit : App T Unit).run handle server =
      (.ok (), { server with committed := server.working }) :=
  Program.run_call _ _

@[simp] theorem run_addTask (mail : Mail) :
    (addTask mail : App T Unit).run handle server =
      (.ok (), { server with tasks := server.tasks ++ [mail] }) :=
  Program.run_call _ _

end

/-! ## Libraries outside the repository -/

/-- What the `user-agents` library reports about a User-Agent string. -/
structure ParsedUserAgent where
  isBot : Bool
  isTablet : Bool
  isMobile : Bool
  isPc : Bool
  osFamily : Option String
  osVersion : String
  deviceFamily : Option String
  browserFamily : Option String
  browserVersion : String

structure Environment (T : Type) where
  settings : Settings
  /-- `str.lower` -/
  lower : String → String
  /-- `str.upper` -/
  upper : String → String
  /-- `lower(…)` of the database -/
  sqlLower : String → String
  /-- the characters that `\d` matches -/
  isDecimal : Char → Bool
  /-- the normalised address, if `EmailStr` accepts the text -/
  validEmail : String → Option String
  /-- `passlib` verification of a password against a stored hash -/
  verifyPassword : String → String → Bool
  /-- `passlib` hashing under a random salt -/
  hashPassword : ℕ → String → String
  needsRehash : String → Bool
  /-- `pyotp.TOTP(secret).verify(otp, valid_window=window)` at an instant -/
  totpVerify : (secret otp : String) → (window : ℕ) → T → Bool
  randomBase32 : ℕ → String
  encrypt : ℕ → String → String
  decrypt : String → Option String
  sha256Hex : String → String
  /-- `base64.urlsafe_b64encode(hashlib.sha256(…).digest())` -/
  sha256Base64 : String → String
  /-- `secrets.token_urlsafe` -/
  tokenUrlsafe : ℕ → String
  /-- the index that `secrets.choice` picks in an alphabet of 32 letters -/
  secretsChoice : ℕ → Fin 32
  parseUserAgent : String → ParsedUserAgent

/-- `int(x)`: truncation towards zero. -/
def pyInt {T : Type} [CommRing T] [LinearOrder T] [FloorRing T] (value : T) : ℤ :=
  if 0 ≤ value then ⌊value⌋ else ⌈value⌉

end EnterpriseAuth
