import Mathlib.Data.PNat.Basic

/-!
# Settings and exceptions

`Settings` holds the values of `core/config.py` that the modelled code reads, with the defaults of
that file.  A duration that is handed to Redis as a time to live is a positive number, because
Redis refuses a command that carries another one.

`AppError` is the hierarchy of `core/exceptions.py` together with the exceptions that reach the
handlers from the libraries.
-/

namespace EnterpriseAuth

structure Settings where
  accessTokenExpireMinutes : ℕ := 15
  refreshTokenExpireDays : ℕ := 7
  refreshTokenRememberMeDays : ℕ+ := 30
  preAuthTokenExpireMinutes : ℕ := 5
  totpValidWindow : ℕ := 1
  backupCodeCount : ℕ := 10
  twoFaRateLimitPerMinute : ℕ := 5
  /-- declared and documented, but read by no function -/
  twoFaMaxFailures : ℕ := 5
  emailVerificationExpireHours : ℕ := 24
  passwordResetExpireMinutes : ℕ := 30
  emailChangeExpireHours : ℕ := 24
  oauthStateTtlSeconds : ℕ+ := 600
  sessionIdleTimeoutMinutes : ℕ+ := 30
  sessionAbsoluteExpireHours : ℕ+ := 720
  sessionActivityThrottleSeconds : ℕ+ := 10
  rateLimitPerMinute : ℕ := 60
  authRateLimitPerMinute : ℕ := 10
  maxFailedLogins : ℕ := 5
  lockoutSeconds : ℕ+ := 900

inductive ErrorKind where
  | auth | accountLocked | tokenReplay
  | permissionDenied | notFound | conflict | validation | rateLimited | serviceUnavailable
  /-- `jwt.PyJWTError` -/
  | jwt
  /-- `RedisError` or `ConnectionError` -/
  | redis
  /-- an exception of SQLAlchemy or of the database driver -/
  | database
  /-- `DecryptionError` -/
  | decryption
  /-- any other exception, answered by the catch-all handler -/
  | unexpected
  deriving DecidableEq, Repr

structure AppError where
  kind : ErrorKind
  message : String
  deriving DecidableEq, Repr

/-- `AccountLocked` and `TokenReplayError` are subclasses of `AuthError`. -/
def ErrorKind.isAuthError : ErrorKind → Bool
  | .auth | .accountLocked | .tokenReplay => true
  | _ => false

def ErrorKind.statusCode : ErrorKind → ℕ
  | .auth | .accountLocked | .tokenReplay => 401
  | .permissionDenied => 403
  | .notFound => 404
  | .conflict => 409
  | .validation => 422
  | .rateLimited => 429
  | .serviceUnavailable => 503
  | .jwt | .redis | .database | .decryption | .unexpected => 500

namespace AppError

def auth (message : String) : AppError := ⟨.auth, message⟩
def permissionDenied (message : String) : AppError := ⟨.permissionDenied, message⟩
def notFound (message : String) : AppError := ⟨.notFound, message⟩
def conflict (message : String) : AppError := ⟨.conflict, message⟩
def validation (message : String) : AppError := ⟨.validation, message⟩
def rateLimited : AppError := ⟨.rateLimited, "Too many requests. Please try again later."⟩
def serviceUnavailable : AppError :=
  ⟨.serviceUnavailable, "A dependency is temporarily unavailable. Please retry."⟩
def accountLocked : AppError :=
  ⟨.accountLocked, "Account temporarily locked due to too many failed attempts."⟩
def tokenReplay : AppError := ⟨.tokenReplay, "Refresh token reuse detected."⟩
def jwt (message : String) : AppError := ⟨.jwt, message⟩
def redis (message : String) : AppError := ⟨.redis, message⟩
def integrity : AppError := ⟨.database, "IntegrityError"⟩
def dataError : AppError := ⟨.database, "DataError"⟩
def staleData : AppError := ⟨.database, "StaleDataError"⟩
/-- the database did not execute a statement or a commit -/
def operational : AppError := ⟨.database, "OperationalError"⟩
def decryption : AppError := ⟨.decryption, "Unable to decrypt stored secret."⟩
def unexpected (message : String) : AppError := ⟨.unexpected, message⟩

end AppError

end EnterpriseAuth
