import EnterpriseAuth.Models

/-!
# What a statement does

A statement that succeeds has passed the checks of its table and changes that table only.
-/

namespace EnterpriseAuth.Database

open Effects

variable {T : Type} {before after : Database T}

/-- What the repositories send to the database. -/
class inductive Statement : (Database T → Except AppError (Database T)) → Prop
  | insertUser (user : User T) : Statement (insertUser user)
  | updateUser (id : Uuid) (change : User T → User T) (keeps) : Statement (updateUser id change keeps)
  | insertSession (session : Session T) : Statement (insertSession session)
  | updateSession (sid : Uuid) (change : Session T → Session T) (keeps) :
    Statement (updateSession sid change keeps)
  | insertTwoFactorAuth (record : TwoFactorAuth T) : Statement (insertTwoFactorAuth record)
  | updateTwoFactorAuth (userId : Uuid) (change : TwoFactorAuth T → TwoFactorAuth T) (keeps) :
    Statement (updateTwoFactorAuth userId change keeps)
  | deleteTwoFactorAuth (userId : Uuid) : Statement (deleteTwoFactorAuth userId)
  | insertBackupCode (code : BackupCode T) : Statement (insertBackupCode code)
  | updateBackupCode (id : Uuid) (change : BackupCode T → BackupCode T) (keeps) :
    Statement (updateBackupCode id change keeps)
  | deleteBackupCodes (userId : Uuid) : Statement (deleteBackupCodes userId)
  | insertEmailToken (token : EmailToken T) : Statement (insertEmailToken token)
  | updateEmailToken (hash : String) (change : EmailToken T → EmailToken T) (keeps) :
    Statement (updateEmailToken hash change keeps)
  | deleteEmailTokens (userId : Uuid) (purpose : Purpose) : Statement (deleteEmailTokens userId purpose)
  | insertOAuthAccount (account : OAuthAccount T) : Statement (insertOAuthAccount account)

attribute [instance] Statement.insertUser Statement.updateUser Statement.insertSession
  Statement.updateSession Statement.insertTwoFactorAuth Statement.updateTwoFactorAuth
  Statement.deleteTwoFactorAuth Statement.insertBackupCode Statement.updateBackupCode
  Statement.deleteBackupCodes Statement.insertEmailToken Statement.updateEmailToken
  Statement.deleteEmailTokens Statement.insertOAuthAccount

/-- A statement that is refused was executed. -/
theorem statement_error {change : Database T → Except AppError (Database T)}
    (statement : Statement change) {error : AppError} (refused : change before = .error error) :
    error ≠ .operational := by
  have refusals : error = .dataError ∨ error = .integrity ∨ error = .staleData := by
    cases statement with
    | insertUser => unfold insertUser at refused; grind
    | updateUser => unfold updateUser at refused; grind
    | insertSession => unfold insertSession at refused; grind
    | updateSession => unfold updateSession at refused; grind
    | insertTwoFactorAuth => unfold insertTwoFactorAuth at refused; grind
    | updateTwoFactorAuth => unfold updateTwoFactorAuth at refused; grind
    | insertBackupCode => unfold insertBackupCode at refused; grind
    | updateBackupCode => unfold updateBackupCode at refused; grind
    | insertEmailToken => unfold insertEmailToken at refused; grind
    | updateEmailToken => unfold updateEmailToken at refused; grind
    | insertOAuthAccount => unfold insertOAuthAccount at refused; grind
    | deleteTwoFactorAuth | deleteBackupCodes | deleteEmailTokens => cases refused
  rcases refusals with rfl | rfl | rfl <;> decide

/-! ## Insertions -/

theorem insertUser_ok {user : User T} (changed : insertUser user before = .ok after) :
    user.fits = true ∧ before.emailTaken user = false ∧
      ∃ users, before.users.insert user = some users ∧ after = { before with users } := by
  unfold insertUser at changed
  grind

theorem insertSession_ok {session : Session T} (changed : insertSession session before = .ok after) :
    session.fits = true ∧ before.userExists session.userId = true ∧
      ∃ sessions, before.sessions.insert session = some sessions ∧
        after = { before with sessions } := by
  unfold insertSession at changed
  grind

theorem insertTwoFactorAuth_ok {record : TwoFactorAuth T}
    (changed : insertTwoFactorAuth record before = .ok after) :
    fitsColumn 512 record.encryptedSecret = true ∧ before.userExists record.userId = true ∧
      ∃ twoFactorAuth, before.twoFactorAuth.insert record = some twoFactorAuth ∧
        after = { before with twoFactorAuth } := by
  unfold insertTwoFactorAuth at changed
  grind

theorem insertBackupCode_ok {code : BackupCode T} (changed : insertBackupCode code before = .ok after) :
    fitsColumn 255 code.hashedCode = true ∧ before.userExists code.userId = true ∧
      ∃ backupCodes, before.backupCodes.insert code = some backupCodes ∧
        after = { before with backupCodes } := by
  unfold insertBackupCode at changed
  grind

theorem insertEmailToken_ok {token : EmailToken T}
    (changed : insertEmailToken token before = .ok after) :
    (fitsColumn 64 token.tokenHash && fitsNullable 320 token.newEmail) = true ∧
      before.userExists token.userId = true ∧
      ∃ emailTokens, before.emailTokens.insert token = some emailTokens ∧
        after = { before with emailTokens } := by
  unfold insertEmailToken at changed
  grind

theorem insertOAuthAccount_ok {account : OAuthAccount T}
    (changed : insertOAuthAccount account before = .ok after) :
    account.fits = true ∧ before.userExists account.userId = true ∧
      ∃ oauthAccounts, before.oauthAccounts.insert account = some oauthAccounts ∧
        after = { before with oauthAccounts } := by
  unfold insertOAuthAccount at changed
  grind

/-! ## Updates -/

theorem updateUser_ok {id : Uuid} {change : User T → User T} {keeps}
    (changed : updateUser id change keeps before = .ok after) :
    ∃ user, before.users.find id = some user ∧ (change user).fits = true ∧
      before.emailTaken (change user) = false ∧
      after = { before with users := before.users.modify id change keeps } := by
  unfold updateUser at changed
  grind

theorem updateTwoFactorAuth_ok {userId : Uuid} {change : TwoFactorAuth T → TwoFactorAuth T} {keeps}
    (changed : updateTwoFactorAuth userId change keeps before = .ok after) :
    ∃ record, before.twoFactorAuth.find userId = some record ∧
      fitsColumn 512 (change record).encryptedSecret = true ∧
      after = { before with twoFactorAuth := before.twoFactorAuth.modify userId change keeps } := by
  unfold updateTwoFactorAuth at changed
  grind

theorem updateSession_ok {sid : Uuid} {change : Session T → Session T} {keeps}
    (changed : updateSession sid change keeps before = .ok after) :
    ∃ row, before.sessions.find sid = some row ∧
      after = { before with sessions := before.sessions.modify sid change keeps } := by
  unfold updateSession at changed
  grind

theorem updateBackupCode_ok {id : Uuid} {change : BackupCode T → BackupCode T} {keeps}
    (changed : updateBackupCode id change keeps before = .ok after) :
    ∃ code, before.backupCodes.find id = some code ∧
      after = { before with backupCodes := before.backupCodes.modify id change keeps } := by
  unfold updateBackupCode at changed
  grind

theorem updateEmailToken_ok {hash : String} {change : EmailToken T → EmailToken T} {keeps}
    (changed : updateEmailToken hash change keeps before = .ok after) :
    ∃ token, before.emailTokens.find hash = some token ∧
      after = { before with emailTokens := before.emailTokens.modify hash change keeps } := by
  unfold updateEmailToken at changed
  grind

/-! ## Users -/

/-- The statement leaves the users alone. -/
class SparesUsers (change : Database T → Except AppError (Database T)) : Prop where
  users : ∀ before after, change before = .ok after → after.users = before.users

instance (session : Session T) : SparesUsers (insertSession session) where
  users before after changed := by obtain ⟨-, -, _, -, rfl⟩ := insertSession_ok changed; rfl

instance SparesUsers.updateSession (sid : Uuid) (change : Session T → Session T) (keeps) :
    SparesUsers (Database.updateSession sid change keeps) where
  users before after changed := by obtain ⟨_, -, rfl⟩ := updateSession_ok changed; rfl

instance (record : TwoFactorAuth T) : SparesUsers (insertTwoFactorAuth record) where
  users before after changed := by obtain ⟨-, -, _, -, rfl⟩ := insertTwoFactorAuth_ok changed; rfl

instance (userId : Uuid) (change : TwoFactorAuth T → TwoFactorAuth T) (keeps) :
    SparesUsers (updateTwoFactorAuth userId change keeps) where
  users before after changed := by obtain ⟨_, -, -, rfl⟩ := updateTwoFactorAuth_ok changed; rfl

instance (userId : Uuid) : SparesUsers (deleteTwoFactorAuth (T := T) userId) where
  users before after changed := by cases changed; rfl

instance (code : BackupCode T) : SparesUsers (insertBackupCode code) where
  users before after changed := by obtain ⟨-, -, _, -, rfl⟩ := insertBackupCode_ok changed; rfl

instance (id : Uuid) (change : BackupCode T → BackupCode T) (keeps) :
    SparesUsers (updateBackupCode id change keeps) where
  users before after changed := by obtain ⟨_, -, rfl⟩ := updateBackupCode_ok changed; rfl

instance (userId : Uuid) : SparesUsers (deleteBackupCodes (T := T) userId) where
  users before after changed := by cases changed; rfl

instance (token : EmailToken T) : SparesUsers (insertEmailToken token) where
  users before after changed := by obtain ⟨-, -, _, -, rfl⟩ := insertEmailToken_ok changed; rfl

instance (hash : String) (change : EmailToken T → EmailToken T) (keeps) :
    SparesUsers (updateEmailToken hash change keeps) where
  users before after changed := by obtain ⟨_, -, rfl⟩ := updateEmailToken_ok changed; rfl

instance (userId : Uuid) (purpose : Purpose) :
    SparesUsers (deleteEmailTokens (T := T) userId purpose) where
  users before after changed := by cases changed; rfl

instance (account : OAuthAccount T) : SparesUsers (insertOAuthAccount account) where
  users before after changed := by obtain ⟨-, -, _, -, rfl⟩ := insertOAuthAccount_ok changed; rfl

/-- The roles are seeded, and no statement of the repositories writes them. -/
theorem roles_statement {change : Database T → Except AppError (Database T)}
    (statement : Statement change) (changed : change before = .ok after) :
    after.roles = before.roles := by
  cases statement with
  | insertUser => obtain ⟨-, -, _, -, rfl⟩ := insertUser_ok changed; rfl
  | updateUser => obtain ⟨_, -, -, -, rfl⟩ := updateUser_ok changed; rfl
  | insertSession => obtain ⟨-, -, _, -, rfl⟩ := insertSession_ok changed; rfl
  | updateSession => obtain ⟨_, -, rfl⟩ := updateSession_ok changed; rfl
  | insertTwoFactorAuth => obtain ⟨-, -, _, -, rfl⟩ := insertTwoFactorAuth_ok changed; rfl
  | updateTwoFactorAuth => obtain ⟨_, -, -, rfl⟩ := updateTwoFactorAuth_ok changed; rfl
  | insertBackupCode => obtain ⟨-, -, _, -, rfl⟩ := insertBackupCode_ok changed; rfl
  | updateBackupCode => obtain ⟨_, -, rfl⟩ := updateBackupCode_ok changed; rfl
  | insertEmailToken => obtain ⟨-, -, _, -, rfl⟩ := insertEmailToken_ok changed; rfl
  | updateEmailToken => obtain ⟨_, -, rfl⟩ := updateEmailToken_ok changed; rfl
  | insertOAuthAccount => obtain ⟨-, -, _, -, rfl⟩ := insertOAuthAccount_ok changed; rfl
  | deleteTwoFactorAuth | deleteBackupCodes | deleteEmailTokens => cases changed; rfl

end EnterpriseAuth.Database
