import EnterpriseAuth.Services.Auth

/-!
# Email-driven account flows

`services/email_account.py`: verification, password reset and change of address, each authorised by
a single-use token of its own purpose.
-/

namespace EnterpriseAuth.EmailAccountService

variable {T : Type} [CommRing T] (env : Environment T)

/-- Issues the only outstanding token of the user for the purpose. -/
def issue (user : User T) (purpose : Purpose) (ttlSeconds : ℕ) (newEmail : Option String) :
    App T String := do
  write (Database.deleteEmailTokens user.id purpose)
  let draw ← uuid4
  let raw := env.tokenUrlsafe draw
  let now ← now
  write (Database.insertEmailToken
    { userId := user.id
      tokenHash := env.sha256Hex raw
      purpose
      newEmail
      expiresAt := now + (ttlSeconds : T) })
  return raw

def consume [LinearOrder T] (raw : String) (purpose : Purpose) : App T (EmailToken T) := do
  let db ← view
  match db.emailTokens.find (env.sha256Hex raw) with
  | none => throw (.auth "Invalid or already-used token.")
  | some token =>
    if token.purpose ≠ purpose ∨ token.usedAt.isSome then
      throw (.auth "Invalid or already-used token.")
    let now ← now
    if now ≥ token.expiresAt then throw (.auth "This token has expired.")
    write (Database.updateEmailToken token.tokenHash
      (fun token => { token with usedAt := some now }) fun _ => rfl)
    return { token with usedAt := some now }

def sendSignupEmails (user : User T) : App T Unit := do
  let raw ← issue env user .verifyEmail (env.settings.emailVerificationExpireHours * 3600) none
  addTask (.welcome user.email user.fullName)
  addTask (.verification user.email raw)

def resendVerification (user : User T) : App T Unit := do
  if user.isVerified then throw (.conflict "Email is already verified.")
  let raw ← issue env user .verifyEmail (env.settings.emailVerificationExpireHours * 3600) none
  addTask (.verification user.email raw)

def requestPasswordReset (email : String) : App T Unit := do
  match ← getByEmail env email with
  | none => return ()
  | some user =>
    if user.isActive then
      let raw ← issue env user .resetPassword (env.settings.passwordResetExpireMinutes * 60) none
      addTask (.passwordReset user.email raw)

def requestEmailChange (user : User T) (newEmail password : String) : App T Unit := do
  if !env.verifyPassword password user.hashedPassword then
    throw (.auth "Password confirmation failed.")
  let newEmail := env.lower newEmail
  if newEmail = user.email then throw (.validation "New email matches the current email.")
  let db ← view
  if db.emailExists env newEmail then throw (.conflict "That email address is already in use.")
  let raw ← issue env user .changeEmail (env.settings.emailChangeExpireHours * 3600) (some newEmail)
  addTask (.emailChange newEmail raw)

variable [LinearOrder T]

def verifyEmail (raw : String) : App T Unit := do
  let token ← consume env raw .verifyEmail
  let db ← view
  match db.users.find token.userId with
  | none => throw (.auth "Account no longer exists.")
  | some user =>
    write (Database.updateUser user.id (fun user => { user with isVerified := true }) fun _ => rfl)

omit [CommRing T] [LinearOrder T] in
theorem setPassword_id (hashedPassword : String) (user : User T) :
    { user with hashedPassword }.id = user.id := rfl

def resetPassword (raw newPassword : String) : App T Unit := do
  validatePasswordStrength env newPassword
  let token ← consume env raw .resetPassword
  let db ← view
  match db.users.find token.userId with
  | none => throw (.auth "Account no longer exists.")
  | some user =>
    let salt ← uuid4
    let hashedPassword := env.hashPassword salt newPassword
    write (Database.updateUser user.id (fun user => { user with hashedPassword })
      (setPassword_id hashedPassword))
    addTask (.passwordChanged user.email)

def confirmEmailChange (raw : String) : App T Unit := do
  let token ← consume env raw .changeEmail
  let db ← view
  match db.users.find token.userId, token.newEmail with
  | some user, some newEmail =>
    if db.emailExists env newEmail then throw (.conflict "That email address is already in use.")
    write (Database.updateUser user.id
      (fun user => { user with email := newEmail, isVerified := true }) fun _ => rfl)
  | _, _ => throw (.auth "Invalid email-change token.")

end EnterpriseAuth.EmailAccountService
