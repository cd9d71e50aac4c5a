import EnterpriseAuth.Core.Text
import EnterpriseAuth.Services.RateLimit

/-!
# Two-factor authentication

`services/two_factor.py`: TOTP secrets, verification with replay protection and lockout, and
single-use recovery codes.
-/

namespace EnterpriseAuth.TwoFactorService

variable {T : Type} (env : Environment T)

def codeAlphabet : List Char := "ABCDEFGHJKLMNPQRSTUVWXYZ23456789".toList

def otpStepSeconds : ℕ := 30

def requirePassword (user : User T) (password : String) : App T Unit := do
  if !env.verifyPassword password user.hashedPassword then
    throw (.auth "Password confirmation failed.")

/-- `decrypt` of `core/crypto.py` -/
def decrypt (ciphertext : String) : App T String :=
  match env.decrypt ciphertext with
  | none => throw .decryption
  | some plaintext => pure plaintext

/-! ## Setup -/

/-- The columns of an abandoned setup that the ORM writes: those whose value differs from what the
request loaded. -/
def restarted (loaded : TwoFactorAuth T) (encryptedSecret : String) (record : TwoFactorAuth T) :
    TwoFactorAuth T :=
  { record with
    encryptedSecret :=
      if encryptedSecret = loaded.encryptedSecret then record.encryptedSecret else encryptedSecret
    enabled := if loaded.enabled then false else record.enabled
    verifiedAt := if loaded.verifiedAt.isSome then none else record.verifiedAt }

theorem restarted_userId (loaded : TwoFactorAuth T) (encryptedSecret : String)
    (record : TwoFactorAuth T) : (restarted loaded encryptedSecret record).userId = record.userId :=
  rfl

/-- Checks the password and stores a pending secret, which it returns. -/
def startSetup (user : User T) (password : String) : App T String := do
  requirePassword env user password
  let db ← view
  let record := db.twoFactorAuth.find user.id
  if (record.map (·.enabled)).getD false then
    throw (.conflict "Two-factor authentication is already enabled.")
  let secretDraw ← uuid4
  let secret := env.randomBase32 secretDraw
  let nonce ← uuid4
  let encryptedSecret := env.encrypt nonce secret
  match record with
  | none => write (Database.insertTwoFactorAuth { userId := user.id, encryptedSecret })
  | some loaded =>
    write (Database.updateTwoFactorAuth user.id (restarted loaded encryptedSecret)
      (restarted_userId loaded encryptedSecret))
  return secret

def getPendingSecret (user : User T) : App T String := do
  let db ← view
  match db.twoFactorAuth.find user.id with
  | none => throw (.notFound "No pending two-factor setup to display.")
  | some record =>
    if record.enabled then throw (.notFound "No pending two-factor setup to display.")
    else decrypt env record.encryptedSecret

def confirmSetup (user : User T) (otp : String) : App T Unit := do
  let db ← view
  match db.twoFactorAuth.find user.id with
  | none => throw (.notFound "Start two-factor setup first.")
  | some record =>
    if record.enabled then throw (.conflict "Two-factor authentication is already enabled.")
    let secret ← decrypt env record.encryptedSecret
    let now ← now
    if !env.totpVerify secret otp env.settings.totpValidWindow now then
      throw (.auth "Invalid verification code.")
    write (Database.updateTwoFactorAuth user.id
      (fun record => { record with enabled := true, verifiedAt := some now }) fun _ => rfl)

/-! ## Verification -/

def enabledRecord (user : User T) : App T (TwoFactorAuth T) := do
  let db ← view
  match db.twoFactorAuth.find user.id with
  | none => throw (.conflict "Two-factor authentication is not enabled.")
  | some record =>
    if record.enabled then return record
    else throw (.conflict "Two-factor authentication is not enabled.")

def lockId (userId : Uuid) : String := s!"2fa:{userId}"

/-- Seconds for which an accepted code stays marked as used. -/
def replayTtl : ℕ := otpStepSeconds * (2 * env.settings.totpValidWindow + 1)

def verifyTotp (user : User T) (otp : String) : App T Unit := do
  RateLimiter.ensureNotLocked env (lockId user.id) none
  let record ← enabledRecord user
  let secret ← decrypt env record.encryptedSecret
  if ← present (.otpUsed user.id otp) then
    RateLimiter.recordFailure env (lockId user.id) none
    throw (.auth "This code has already been used.")
  let now ← now
  if !env.totpVerify secret otp env.settings.totpValidWindow now then
    RateLimiter.recordFailure env (lockId user.id) none
    throw (.auth "Invalid verification code.")
  setKey (.otpUsed user.id otp) .flag (replayTtl env)
  RateLimiter.clearFailures env (lockId user.id) none

/-! ## Recovery codes -/

def drawLetters : ℕ → App T (List Char)
  | 0 => return []
  | count + 1 => do
    let draw ← uuid4
    let rest ← drawLetters count
    return codeAlphabet.getD (env.secretsChoice draw) 'A' :: rest

def generateCode : App T String := do
  let raw ← drawLetters env 12
  return String.ofList
    (raw.take 4 ++ '-' :: (raw.drop 4).take 4 ++ '-' :: (raw.drop 8).take 4)

def generateCodes : ℕ → App T (List String)
  | 0 => return []
  | count + 1 => do
    let code ← generateCode env
    let rest ← generateCodes count
    return code :: rest

def storeCodes (user : User T) : List String → App T Unit
  | [] => return ()
  | code :: codes => do
    let salt ← uuid4
    let id ← uuid4
    write (Database.insertBackupCode
      { id, userId := user.id, hashedCode := env.hashPassword salt code })
    storeCodes user codes

def generateRecoveryCodes (user : User T) (replace : Bool) : App T (List String) := do
  let db ← view
  if db.countUnused user.id ≠ 0 ∧ !replace then
    throw (.conflict "Recovery codes already exist. Use regenerate to replace them.")
  if replace then write (Database.deleteBackupCodes user.id)
  let plaintext ← generateCodes env env.settings.backupCodeCount
  storeCodes env user plaintext
  return plaintext

theorem usedCode_id (now : T) (code : BackupCode T) :
    ({ code with usedAt := some now } : BackupCode T).id = code.id := rfl

/-- The loop over the unused codes: uses up the first that matches, if any. -/
def consumeFirst (normalized : String) : List (BackupCode T) → App T Bool
  | [] => return false
  | candidate :: candidates =>
    if env.verifyPassword normalized candidate.hashedCode then do
      let now ← now
      write (Database.updateBackupCode candidate.id
        (fun code => { code with usedAt := some now }) (usedCode_id now))
      return true
    else consumeFirst normalized candidates

def consumeRecoveryCode (user : User T) (code : String) : App T Unit := do
  RateLimiter.ensureNotLocked env (lockId user.id) none
  let normalized := env.upper (Text.strip code)
  let db ← view
  if ← consumeFirst env normalized (db.listUnused user.id) then
    RateLimiter.clearFailures env (lockId user.id) none
  else
    RateLimiter.recordFailure env (lockId user.id) none
    throw (.auth "Invalid recovery code.")

/-! ## Disabling and status -/

def disable (user : User T) (password otp : String) : App T Unit := do
  requirePassword env user password
  verifyTotp env user otp
  let db ← view
  if (db.twoFactorAuth.find user.id).isSome then write (Database.deleteTwoFactorAuth user.id)
  write (Database.deleteBackupCodes user.id)

def isEnabled (user : User T) : App T Bool := do
  let db ← view
  return ((db.twoFactorAuth.find user.id).map (·.enabled)).getD false

structure Status (T : Type) where
  enabled : Bool
  verifiedAt : Option T
  recoveryCodesRemaining : ℕ

def status (user : User T) : App T (Status T) := do
  let db ← view
  let record := db.twoFactorAuth.find user.id
  let enabled := (record.map (·.enabled)).getD false
  return {
    enabled
    verifiedAt := record.bind (·.verifiedAt)
    recoveryCodesRemaining := if enabled then db.countUnused user.id else 0 }

end EnterpriseAuth.TwoFactorService
