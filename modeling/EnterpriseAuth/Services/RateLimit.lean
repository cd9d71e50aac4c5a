import EnterpriseAuth.Runtime

/-!
# Rate limits and brute-force lockout

`services/rate_limit.py`: the fixed-window counter and the failure counter with its lock.
-/

namespace EnterpriseAuth.RateLimiter

variable {T : Type} (env : Environment T)

/-- Counts a call in the window of its key.  Without an answer from Redis the call is refused. -/
def hit (key : String) (limit windowSeconds : ℕ) : App T Unit := do
  let count ← tryCatch
    (do
      let count ← incrKey (.rateLimit key)
      if count = 1 then expireKey (.rateLimit key) windowSeconds
      return count)
    fun error => if error.kind = .redis then throw .serviceUnavailable else throw error
  if count > limit then throw .rateLimited

/-- `_scoped` -/
def subject (identifier : String) (ip : Option String) : String :=
  match ip with
  | some ip => if ip = "" then env.lower identifier else s!"{env.lower identifier}:{ip}"
  | none => env.lower identifier

def lockoutKey (identifier : String) (ip : Option String) : Key :=
  .lockout (subject env identifier ip)

def failcountKey (identifier : String) (ip : Option String) : Key :=
  .failcount (subject env identifier ip)

def ensureNotLocked (identifier : String) (ip : Option String) : App T Unit := do
  let locked ← tryCatch (present (lockoutKey env identifier ip))
    fun error => if error.kind = .redis then throw .serviceUnavailable else throw error
  if locked then throw .accountLocked

/-- Errors of Redis are swallowed: the decision about the credentials has been made. -/
def recordFailure (identifier : String) (ip : Option String) : App T Unit :=
  tryCatch
    (do
      let count ← incrKey (failcountKey env identifier ip)
      if count = 1 then expireKey (failcountKey env identifier ip) env.settings.lockoutSeconds
      if count ≥ env.settings.maxFailedLogins then
        setKey (lockoutKey env identifier ip) .flag env.settings.lockoutSeconds
        deleteKey (failcountKey env identifier ip))
    fun error => if error.kind = .redis then pure () else throw error

def clearFailures (identifier : String) (ip : Option String) : App T Unit :=
  tryCatch
    (do
      deleteKey (failcountKey env identifier ip)
      deleteKey (lockoutKey env identifier ip))
    fun error => if error.kind = .redis then pure () else throw error

end EnterpriseAuth.RateLimiter
