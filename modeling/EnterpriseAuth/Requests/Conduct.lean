import EnterpriseAuth.Effects.Conduct
import EnterpriseAuth.Requests.Statements
import EnterpriseAuth.Api.System

/-!
# The powers of a handler

Four kinds of operations decide about failures, mailed tokens and second factors: to commit before
the end of the request, to write a revocation flag to Redis, to write the email tokens or the address
of a user, and to write the second factor of a user.  `Powers` says which of them a program may use;
nothing that any program does revives an ended session.  `Conducts` reads the powers off the tree of
a program, so that it says something about runs with failing operations too.
-/

namespace EnterpriseAuth

open Effects Program

variable {T : Type}

/-! ## Letters -/

/-- The recipient of a mail that carries a token, and the token. -/
def Mail.letter : Mail → Option (String × String)
  | .verification recipient token | .passwordReset recipient token
  | .emailChange recipient token => some (recipient, token)
  | .welcome .. | .passwordChanged _ | .newDeviceAlert .. => none

/-- The mail carries no token. -/
class Mail.Notice (mail : Mail) : Prop where
  noLetter : mail.letter = none

instance (recipient fullName : String) : (Mail.welcome recipient fullName).Notice := ⟨rfl⟩
instance (recipient : String) : (Mail.passwordChanged recipient).Notice := ⟨rfl⟩
instance (recipient device browser ip : String) :
    (Mail.newDeviceAlert recipient device browser ip).Notice := ⟨rfl⟩

/-! ## Writes of a command -/

/-- The key that a command of Redis may change. -/
def RedisCommand.writes : RedisCommand → Option Key
  | .present _ | .get _ => none
  | .set key _ _ | .delete key | .incr key | .expire key _ => some key

theorem RedisCommand.execute_other [CommRing T] [LinearOrder T] {command : RedisCommand} {key : Key}
    (other : command.writes ≠ some key) (now : T) (store : RedisStore T) :
    (command.execute now store).2 key = store key := by
  have elsewhere {written : Key} (isWritten : command.writes = some written) : key ≠ written := by
    intro same
    exact other (same ▸ isWritten)
  cases command with
  | present | get => rfl
  | set written value ex =>
    simp only [execute]
    split
    · rfl
    · simp [ExpiringStore.put, elsewhere rfl]
  | delete written => simp [execute, ExpiringStore.remove, elsewhere rfl]
  | incr written =>
    simp only [execute]
    split
    · simp [ExpiringStore.put, elsewhere rfl]
    · simp [ExpiringStore.put, elsewhere rfl]
    · rfl
  | expire written =>
    simp only [execute]
    split
    · rfl
    · simp [ExpiringStore.put, elsewhere rfl]

namespace Database

/-- The session is stored and has ended. -/
def Ended (db : Database T) (sid : Uuid) : Prop :=
  ∃ row, db.sessions.find sid = some row ∧ row.isActive = false

def KeepsEnded (before after : Database T) : Prop := ∀ sid, before.Ended sid → after.Ended sid

/-- What the email flows go by: the address of a user and whether it is verified. -/
def address (db : Database T) (userId : Uuid) : Option (String × Bool) :=
  (db.users.find userId).map fun user => (user.email, user.isVerified)

structure KeepsMail (before after : Database T) : Prop where
  emailTokens : after.emailTokens = before.emailTokens
  address : ∀ userId, after.address userId = before.address userId

structure KeepsSecondFactor (before after : Database T) : Prop where
  twoFactorAuth : after.twoFactorAuth = before.twoFactorAuth
  backupCodes : after.backupCodes = before.backupCodes

theorem KeepsEnded.of_sessions {before after : Database T}
    (same : after.sessions = before.sessions) : before.KeepsEnded after := by
  intro sid ended
  simpa [Ended, same] using ended

theorem KeepsMail.of_same {before after : Database T} (tokens : after.emailTokens = before.emailTokens)
    (users : after.users = before.users) : before.KeepsMail after :=
  ⟨tokens, fun userId => by simp [Database.address, users]⟩

end Database

/-! ## Powers -/

structure Powers where
  /-- to commit in the middle of the request -/
  commits : Prop
  /-- to write revocation flags -/
  flags : Prop
  /-- to write email tokens and addresses of users, and to send tokens by mail -/
  mail : Prop
  /-- to write second factors and backup codes -/
  secondFactor : Prop

class Powers.Commits (powers : Powers) : Prop where
  may : powers.commits

class Powers.Flags (powers : Powers) : Prop where
  may : powers.flags

class Powers.Mail (powers : Powers) : Prop where
  may : powers.mail

class Powers.SecondFactor (powers : Powers) : Prop where
  may : powers.secondFactor

/-- The powers of a program that leaves the mail flows alone. -/
def Powers.mailless : Powers := ⟨True, True, False, True⟩

instance : Powers.mailless.Commits := ⟨trivial⟩
instance : Powers.mailless.Flags := ⟨trivial⟩
instance : Powers.mailless.SecondFactor := ⟨trivial⟩

def Command.Allowed (powers : Powers) : Command T → Prop
  | .commit => powers.commits
  | .redis command => powers.flags ∨ ∀ sid, command.writes ≠ some (.sessionRevoked sid)
  | .write change => ∀ before after, change before = .ok after →
      before.KeepsEnded after ∧ (powers.mail ∨ before.KeepsMail after) ∧
        (powers.secondFactor ∨ before.KeepsSecondFactor after)
  | .addTask mail => powers.mail ∨ mail.letter = none
  | .now | .draw | .view => True

/-- The command neither writes nor commits. -/
def Command.Reads : Command T → Prop
  | .write _ | .commit => False
  | _ => True

/-- The program uses no other powers. -/
class Conducts (powers : Powers) {α : Type} (program : App T α) : Prop where
  every : program.Every (Command.Allowed powers) fun _ => True

/-- The statement needs no other powers. -/
class Powers.Permits (powers : Powers) (change : Database T → Except AppError (Database T)) :
    Prop where
  ended : ∀ before after, change before = .ok after → before.KeepsEnded after
  mail : ∀ before after, change before = .ok after → powers.mail ∨ before.KeepsMail after
  secondFactor : ∀ before after, change before = .ok after →
    powers.secondFactor ∨ before.KeepsSecondFactor after

theorem Powers.Permits.allowed {powers : Powers} {change : Database T → Except AppError (Database T)}
    (permits : powers.Permits change) : (Command.write change).Allowed powers :=
  fun before after changed => ⟨permits.ended before after changed, permits.mail before after changed,
    permits.secondFactor before after changed⟩

namespace Conducts

variable {powers : Powers} {α β : Type}

instance pure (value : α) : Conducts powers (Pure.pure value : App T α) := ⟨trivial⟩

instance throw (error : AppError) : Conducts powers (throw error : App T α) := ⟨trivial⟩

instance bind {program : App T α} {rest : α → App T β} [first : Conducts powers program]
    [second : ∀ value, Conducts powers (rest value)] : Conducts powers (program >>= rest) :=
  ⟨first.every.bind fun value _ => (second value).every⟩

/-- The bind rule for a continuation that is examined by hand. -/
theorem sequence {program : App T α} {rest : α → App T β} [Conducts powers program]
    (second : ∀ value, Conducts powers (rest value)) : Conducts powers (program >>= rest) :=
  bind

instance map {transform : α → β} {program : App T α} [first : Conducts powers program] :
    Conducts powers (transform <$> program) :=
  ⟨Every.map first.every⟩

instance tryCatch {program : App T α} {recover : AppError → App T α}
    [first : Conducts powers program] [second : ∀ error, Conducts powers (recover error)] :
    Conducts powers (MonadExcept.tryCatch program recover) :=
  ⟨first.every.tryCatch fun error => (second error).every⟩

instance ite {condition : Prop} [Decidable condition] {first second : App T α}
    [holds : Conducts powers first] [fails : Conducts powers second] :
    Conducts powers (if condition then first else second) :=
  ⟨Every.ite (fun _ => holds.every) fun _ => fails.every⟩

/-! ## Commands -/

theorem of_call {command : Command T} (allowed : command.Allowed powers) :
    Conducts powers (call command) :=
  ⟨Every.call allowed fun _ => trivial⟩

instance now : Conducts powers (now : App T T) := of_call trivial
instance uuid4 : Conducts powers (uuid4 : App T Uuid) := of_call trivial
instance view : Conducts powers (view : App T (Database T)) := of_call trivial

instance addNotice (mail : Mail) [notice : mail.Notice] :
    Conducts powers (addTask mail : App T Unit) :=
  of_call (.inr notice.noLetter)

instance addLetter [may : powers.Mail] (mail : Mail) :
    Conducts powers (addTask mail : App T Unit) :=
  of_call (.inl may.may)

instance commit [may : powers.Commits] : Conducts powers (commit : App T Unit) := of_call may.may

instance commitAfterResponse [powers.Commits] : Conducts powers (commitAfterResponse : App T Unit) := by
  unfold EnterpriseAuth.commitAfterResponse; infer_instance

instance write (change : Database T → Except AppError (Database T)) [permits : powers.Permits change] :
    Conducts powers (write change : App T Unit) :=
  of_call permits.allowed

/-- The key is not a revocation flag. -/
class Unflagged (key : Key) : Prop where
  notFlag : ∀ sid, key ≠ .sessionRevoked sid

instance (jti : Uuid) : Unflagged (.revokedJti jti) := ⟨by simp⟩
instance (key : String) : Unflagged (.rateLimit key) := ⟨by simp⟩
instance (subject : String) : Unflagged (.lockout subject) := ⟨by simp⟩
instance (subject : String) : Unflagged (.failcount subject) := ⟨by simp⟩
instance (sid : Uuid) : Unflagged (.sessionActive sid) := ⟨by simp⟩
instance (sid : Uuid) : Unflagged (.sessionTouch sid) := ⟨by simp⟩
instance (userId : Uuid) (otp : String) : Unflagged (.otpUsed userId otp) := ⟨by simp⟩
instance (state : String) : Unflagged (.oauthState state) := ⟨by simp⟩

theorem of_key {command : RedisCommand} {key : Key} [unflagged : Unflagged key]
    (writes : command.writes = some key) : Conducts powers (call (.redis command) : App T _) :=
  of_call (.inr fun sid same => unflagged.notFlag sid (Option.some.inj (writes.symm.trans same)))

instance present (key : Key) : Conducts powers (present key : App T Bool) :=
  of_call (.inr fun sid same => by simp [RedisCommand.writes] at same)

instance getKey (key : Key) : Conducts powers (getKey key : App T _) :=
  of_call (.inr fun sid same => by simp [RedisCommand.writes] at same)

section
variable (key : Key) [Unflagged key]

instance setKey (value : RedisValue) (ex : ℕ) : Conducts powers (setKey key value ex : App T Unit) :=
  of_key rfl

instance deleteKey : Conducts powers (deleteKey key : App T Unit) := of_key rfl
instance incrKey : Conducts powers (incrKey key : App T ℕ) := of_key rfl
instance expireKey (seconds : ℕ) : Conducts powers (expireKey key seconds : App T Unit) := of_key rfl

end

instance setFlag [may : powers.Flags] (sid : Uuid) (ex : ℕ) :
    Conducts powers (EnterpriseAuth.setKey (.sessionRevoked sid) .flag ex : App T Unit) :=
  of_call (.inl may.may)

end Conducts

/-! ## Statements -/

namespace Powers.Permits

variable {powers : Powers}

/-- A statement on the second factors or the backup codes. -/
theorem of_secondFactor [may : powers.SecondFactor]
    {change : Database T → Except AppError (Database T)}
    (same : ∀ before after, change before = .ok after → after.sessions = before.sessions ∧
      after.users = before.users ∧ after.emailTokens = before.emailTokens) :
    powers.Permits change where
  ended before after changed := .of_sessions (same before after changed).1
  mail before after changed :=
    .inr (.of_same (same before after changed).2.2 (same before after changed).2.1)
  secondFactor _ _ _ := .inl may.may

/-- A statement on the users or on the email tokens. -/
theorem of_mail [may : powers.Mail] {change : Database T → Except AppError (Database T)}
    (same : ∀ before after, change before = .ok after → after.sessions = before.sessions ∧
      after.twoFactorAuth = before.twoFactorAuth ∧ after.backupCodes = before.backupCodes) :
    powers.Permits change where
  ended before after changed := .of_sessions (same before after changed).1
  mail _ _ _ := .inl may.may
  secondFactor before after changed :=
    .inr ⟨(same before after changed).2.1, (same before after changed).2.2⟩

section
variable [powers.SecondFactor]

instance insertTwoFactorAuth (record : TwoFactorAuth T) :
    powers.Permits (Database.insertTwoFactorAuth record) :=
  of_secondFactor fun before after changed => by
    obtain ⟨-, -, _, -, rfl⟩ := Database.insertTwoFactorAuth_ok changed
    exact ⟨rfl, rfl, rfl⟩

instance updateTwoFactorAuth (userId : Uuid) (change : TwoFactorAuth T → TwoFactorAuth T) (keeps) :
    powers.Permits (Database.updateTwoFactorAuth userId change keeps) :=
  of_secondFactor fun before after changed => by
    obtain ⟨_, -, -, rfl⟩ := Database.updateTwoFactorAuth_ok changed
    exact ⟨rfl, rfl, rfl⟩

instance deleteTwoFactorAuth (userId : Uuid) :
    powers.Permits (Database.deleteTwoFactorAuth (T := T) userId) :=
  of_secondFactor fun before after changed => by cases changed; exact ⟨rfl, rfl, rfl⟩

instance insertBackupCode (code : BackupCode T) : powers.Permits (Database.insertBackupCode code) :=
  of_secondFactor fun before after changed => by
    obtain ⟨-, -, _, -, rfl⟩ := Database.insertBackupCode_ok changed
    exact ⟨rfl, rfl, rfl⟩

instance updateBackupCode (id : Uuid) (change : BackupCode T → BackupCode T) (keeps) :
    powers.Permits (Database.updateBackupCode id change keeps) :=
  of_secondFactor fun before after changed => by
    obtain ⟨_, -, rfl⟩ := Database.updateBackupCode_ok changed
    exact ⟨rfl, rfl, rfl⟩

instance deleteBackupCodes (userId : Uuid) :
    powers.Permits (Database.deleteBackupCodes (T := T) userId) :=
  of_secondFactor fun before after changed => by cases changed; exact ⟨rfl, rfl, rfl⟩

end

instance insertOAuthAccount (account : OAuthAccount T) :
    powers.Permits (Database.insertOAuthAccount account) where
  ended before after changed := by
    obtain ⟨-, -, _, -, rfl⟩ := Database.insertOAuthAccount_ok changed
    exact .of_sessions rfl
  mail before after changed := by
    obtain ⟨-, -, _, -, rfl⟩ := Database.insertOAuthAccount_ok changed
    exact .inr (.of_same rfl rfl)
  secondFactor before after changed := by
    obtain ⟨-, -, _, -, rfl⟩ := Database.insertOAuthAccount_ok changed
    exact .inr ⟨rfl, rfl⟩

/-! ### Users and email tokens -/

instance updatePassword (id : Uuid) (hashedPassword : String) (keeps) :
    powers.Permits
      (Database.updateUser id (fun user : User T => { user with hashedPassword }) keeps) where
  ended before after changed := by
    obtain ⟨_, -, -, -, rfl⟩ := Database.updateUser_ok changed
    exact .of_sessions rfl
  mail before after changed := by
    obtain ⟨_, -, -, -, rfl⟩ := Database.updateUser_ok changed
    refine .inr ⟨rfl, fun userId => ?_⟩
    simp only [Database.address, Table.find_modify]
    split
    · rw [Option.map_map]
      rfl
    · rfl
  secondFactor before after changed := by
    obtain ⟨_, -, -, -, rfl⟩ := Database.updateUser_ok changed
    exact .inr ⟨rfl, rfl⟩

section
variable [powers.Mail]

theorem same_updateUser {id : Uuid} {change : User T → User T} {keeps} {before after : Database T}
    (changed : Database.updateUser id change keeps before = .ok after) :
    after.sessions = before.sessions ∧ after.twoFactorAuth = before.twoFactorAuth ∧
      after.backupCodes = before.backupCodes := by
  obtain ⟨_, -, -, -, rfl⟩ := Database.updateUser_ok changed
  exact ⟨rfl, rfl, rfl⟩

instance updateVerified (id : Uuid) (isVerified : Bool) (keeps) :
    powers.Permits (Database.updateUser id (fun user : User T => { user with isVerified }) keeps) :=
  of_mail fun _ _ => same_updateUser

instance updateEmail (id : Uuid) (email : String) (isVerified : Bool) (keeps) :
    powers.Permits
      (Database.updateUser id (fun user : User T => { user with email, isVerified }) keeps) :=
  of_mail fun _ _ => same_updateUser

instance insertUser (user : User T) : powers.Permits (Database.insertUser user) :=
  of_mail fun before after changed => by
    obtain ⟨-, -, _, -, rfl⟩ := Database.insertUser_ok changed
    exact ⟨rfl, rfl, rfl⟩

instance insertEmailToken (token : EmailToken T) : powers.Permits (Database.insertEmailToken token) :=
  of_mail fun before after changed => by
    obtain ⟨-, -, _, -, rfl⟩ := Database.insertEmailToken_ok changed
    exact ⟨rfl, rfl, rfl⟩

instance updateEmailToken (hash : String) (change : EmailToken T → EmailToken T) (keeps) :
    powers.Permits (Database.updateEmailToken hash change keeps) :=
  of_mail fun before after changed => by
    obtain ⟨_, -, rfl⟩ := Database.updateEmailToken_ok changed
    exact ⟨rfl, rfl, rfl⟩

instance deleteEmailTokens (userId : Uuid) (purpose : Purpose) :
    powers.Permits (Database.deleteEmailTokens (T := T) userId purpose) :=
  of_mail fun before after changed => by cases changed; exact ⟨rfl, rfl, rfl⟩

end

/-! ### Sessions -/

instance insertSession (session : Session T) : powers.Permits (Database.insertSession session) where
  ended before after changed := by
    obtain ⟨-, -, sessions, inserted, rfl⟩ := Database.insertSession_ok changed
    rintro sid ⟨row, found, inactive⟩
    exact ⟨row, Table.find_insert_of_found inserted found, inactive⟩
  mail before after changed := by
    obtain ⟨-, -, _, -, rfl⟩ := Database.insertSession_ok changed
    exact .inr (.of_same rfl rfl)
  secondFactor before after changed := by
    obtain ⟨-, -, _, -, rfl⟩ := Database.insertSession_ok changed
    exact .inr ⟨rfl, rfl⟩

/-- An update of a session row that revives nobody. -/
theorem of_updateSession {sid : Uuid} {change : Session T → Session T} {keeps}
    (ends : ∀ row : Session T, row.isActive = false → (change row).isActive = false) :
    powers.Permits (Database.updateSession sid change keeps) where
  ended before after changed := by
    obtain ⟨_, -, rfl⟩ := Database.updateSession_ok changed
    rintro other ⟨row, found, inactive⟩
    simp only [Database.Ended, Table.find_modify]
    split
    · exact ⟨change row, by rw [found]; rfl, ends row inactive⟩
    · exact ⟨row, found, inactive⟩
  mail before after changed := by
    obtain ⟨_, -, rfl⟩ := Database.updateSession_ok changed
    exact .inr (.of_same rfl rfl)
  secondFactor before after changed := by
    obtain ⟨_, -, rfl⟩ := Database.updateSession_ok changed
    exact .inr ⟨rfl, rfl⟩

end Powers.Permits

end EnterpriseAuth
