import EnterpriseAuth.Runtime

/-!
# Tokens

`core/security.py` and `services/token.py`: minting and decoding of JWTs, the blacklist of JTIs,
and refresh rotation.  A JWT is its claims; a string that was not signed with the secret key is
`Token.unsigned`, and decoding rejects it.
-/

namespace EnterpriseAuth

inductive TokenType where
  | access | refresh | preAuth
  deriving DecidableEq, Repr

structure Claims where
  sub : Uuid
  type : TokenType
  jti : Uuid
  iat : ℤ
  exp : ℤ
  sid : Option Uuid := none
  /-- `payload.get("remember_me", False)` -/
  rememberMe : Bool := false
  deriving DecidableEq, Repr

/-- What a client presents where a JWT is expected. -/
inductive Token where
  | signed (claims : Claims)
  | unsigned (text : String)
  deriving DecidableEq, Repr

structure TokenPair where
  access : Claims
  refresh : Claims
  deriving DecidableEq, Repr

variable {T : Type}

section
variable [CommRing T] [LinearOrder T] [FloorRing T]

def createToken (subject : Uuid) (type : TokenType) (lifetimeSeconds : ℕ)
    (sid : Option Uuid) (rememberMe : Bool) : App T Claims := do
  let jti ← uuid4
  let now ← now
  return {
    sub := subject, type, jti
    iat := pyInt now
    exp := pyInt (now + (lifetimeSeconds : T))
    sid, rememberMe }

end

/-- A token is accepted while `now < exp`. -/
def decodeToken [CommRing T] [LinearOrder T] (token : Token) (expected : TokenType) :
    App T Claims := do
  match token with
  | .unsigned _ => throw (.jwt "Signature verification failed")
  | .signed claims =>
    let now ← now
    if (claims.exp : T) ≤ now then throw (.jwt "Signature has expired")
    else if claims.type ≠ expected then throw (.jwt "wrong token type")
    else return claims

namespace TokenService

variable (env : Environment T)

def refreshTtlDays (rememberMe : Bool) : ℕ :=
  if rememberMe then env.settings.refreshTokenRememberMeDays
  else env.settings.refreshTokenExpireDays

def isRevoked (jti : Uuid) : App T Bool := present (.revokedJti jti)

section
variable [CommRing T] [LinearOrder T] [FloorRing T]

def issuePair (userId : Uuid) (rememberMe : Bool) (sessionId : Option Uuid) :
    App T (TokenPair × Uuid) := do
  let access ← createToken userId .access (env.settings.accessTokenExpireMinutes * 60) sessionId false
  let refresh ← createToken userId .refresh (refreshTtlDays env rememberMe * 86400) sessionId rememberMe
  return (⟨access, refresh⟩, refresh.jti)

def issuePreAuth (userId : Uuid) : App T Claims :=
  createToken userId .preAuth (env.settings.preAuthTokenExpireMinutes * 60) none false

/-- Blacklists the token's JTI for the whole seconds that are left of its life. -/
def revoke (payload : Claims) : App T Unit := do
  let now ← now
  let ttl := pyInt ((payload.exp : T) - now)
  if ttl > 0 then setKey (.revokedJti payload.jti) .flag ttl.toNat

end

/-- `revoke_jti` without an explicit time to live, as the sessions use it. -/
def revokeJti (jti : Uuid) : App T Unit :=
  setKey (.revokedJti jti) .flag (refreshTtlDays env true * 86400)

section
variable [CommRing T] [LinearOrder T]

def verifyPreAuth (token : Token) : App T Uuid := do
  let payload ← tryCatch (decodeToken token .preAuth) fun error =>
    if error.kind = .jwt then throw (.auth "Invalid or expired pre-authentication token.")
    else throw error
  return payload.sub

def verifyAccess (token : Token) : App T Claims :=
  tryCatch (decodeToken token .access) fun error =>
    if error.kind = .jwt then throw (.auth "Invalid or expired access token.") else throw error

def verifyRefresh (token : Token) : App T Claims := do
  let payload ← tryCatch (decodeToken token .refresh) fun error =>
    if error.kind = .jwt then throw (.auth "Invalid or expired refresh token.") else throw error
  if ← isRevoked payload.jti then throw .tokenReplay
  return payload

variable [FloorRing T]

/-- Validates a refresh token, blacklists it and mints the next pair of the same session. -/
def rotate (refreshToken : Token) : App T (Uuid × Option Uuid × TokenPair × Uuid) := do
  let payload ← verifyRefresh refreshToken
  revoke payload
  let (pair, refreshJti) ← issuePair env payload.sub payload.rememberMe payload.sid
  return (payload.sub, payload.sid, pair, refreshJti)

end

end TokenService

end EnterpriseAuth
