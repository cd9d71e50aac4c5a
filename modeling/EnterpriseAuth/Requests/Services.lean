import EnterpriseAuth.Requests.Frames

/-!
# Frames of the statements and of the services

Every service function that writes no session row is found to be `Within` its frame here: the
reading ones within every frame, the ones that write other tables within every frame that covers
`Standing`, and the ones that change a second factor within `Frame.sessions`.
-/

namespace EnterpriseAuth

open Effects Program

-- an instance is found along the whole syntax of a handler
set_option synthInstance.maxSize 1000

variable {T : Type}

/-! ## Statements -/

/-- Whatever keeps the standing of the users is inside the frame. -/
class Frame.CoversStanding (frame : Frame T) : Prop where
  covers : ∀ before after, Frame.Standing before after → frame.holds before after

instance : (Frame.standing (T := T)).CoversStanding := ⟨fun _ _ => id⟩
instance : (Frame.sessions (T := T)).CoversStanding := ⟨fun _ _ standing => standing.sessions⟩

namespace Frame.Allows

variable {frame : Frame T}

/-- A statement on a table other than users, sessions and second factors. -/
theorem of_otherTable [covers : frame.CoversStanding]
    {change : Database T → Except AppError (Database T)}
    (same : ∀ before after, change before = .ok after → after.sessions = before.sessions ∧
      after.users = before.users ∧ after.twoFactorAuth = before.twoFactorAuth) :
    frame.Allows change where
  inside before after changed := by
    obtain ⟨sessions, users, twoFactorAuth⟩ := same before after changed
    refine covers.covers _ _ ⟨sessions, twoFactorAuth, ?_⟩
    intro id user found
    exact ⟨user, by rwa [users], rfl⟩
  numbered before after draws changed numbered := by
    obtain ⟨-, users, twoFactorAuth⟩ := same before after changed
    exact ⟨by rw [users]; exact numbered.users, by rw [twoFactorAuth]; exact numbered.twoFactorAuth⟩

section
variable [covers : frame.CoversStanding]

instance insertBackupCode (code : BackupCode T) :
    frame.Allows (Database.insertBackupCode code) :=
  of_otherTable fun before after changed => by
    obtain ⟨-, -, _, -, rfl⟩ := Database.insertBackupCode_ok changed
    exact ⟨rfl, rfl, rfl⟩

instance updateBackupCode (id : Uuid) (change : BackupCode T → BackupCode T) (keeps) :
    frame.Allows (Database.updateBackupCode id change keeps) :=
  of_otherTable fun before after changed => by
    obtain ⟨_, -, rfl⟩ := Database.updateBackupCode_ok changed
    exact ⟨rfl, rfl, rfl⟩

instance deleteBackupCodes (userId : Uuid) :
    frame.Allows (Database.deleteBackupCodes (T := T) userId) :=
  of_otherTable fun before after changed => by cases changed; exact ⟨rfl, rfl, rfl⟩

instance insertEmailToken (token : EmailToken T) :
    frame.Allows (Database.insertEmailToken token) :=
  of_otherTable fun before after changed => by
    obtain ⟨-, -, _, -, rfl⟩ := Database.insertEmailToken_ok changed
    exact ⟨rfl, rfl, rfl⟩

instance updateEmailToken (hash : String) (change : EmailToken T → EmailToken T) (keeps) :
    frame.Allows (Database.updateEmailToken hash change keeps) :=
  of_otherTable fun before after changed => by
    obtain ⟨_, -, rfl⟩ := Database.updateEmailToken_ok changed
    exact ⟨rfl, rfl, rfl⟩

instance deleteEmailTokens (userId : Uuid) (purpose : Purpose) :
    frame.Allows (Database.deleteEmailTokens (T := T) userId purpose) :=
  of_otherTable fun before after changed => by cases changed; exact ⟨rfl, rfl, rfl⟩

instance insertOAuthAccount (account : OAuthAccount T) :
    frame.Allows (Database.insertOAuthAccount account) :=
  of_otherTable fun before after changed => by
    obtain ⟨-, -, _, -, rfl⟩ := Database.insertOAuthAccount_ok changed
    exact ⟨rfl, rfl, rfl⟩

/-- An update of a user row that disables and enables nobody. -/
theorem of_updateUser {id : Uuid} {change : User T → User T}
    {keeps} (same : ∀ user, (change user).isActive = user.isActive) :
    frame.Allows (Database.updateUser id change keeps) where
  inside before after changed := by
    obtain ⟨_, -, -, -, rfl⟩ := Database.updateUser_ok changed
    refine covers.covers _ _ ⟨rfl, rfl, ?_⟩
    intro other user found
    rw [Table.find_modify]
    split
    · exact ⟨change user, by rw [found]; rfl, same user⟩
    · exact ⟨user, found, rfl⟩
  numbered before after draws changed numbered := by
    obtain ⟨_, -, -, -, rfl⟩ := Database.updateUser_ok changed
    refine ⟨?_, numbered.twoFactorAuth⟩
    intro other user found
    rw [Table.find_modify] at found
    split at found
    · obtain ⟨stored, foundStored, -⟩ := Option.map_eq_some_iff.mp found
      exact numbered.users other stored foundStored
    · exact numbered.users other user found

instance updatePassword (id : Uuid) (hashedPassword : String) (keeps) :
    frame.Allows (Database.updateUser id (fun user : User T => { user with hashedPassword }) keeps) :=
  of_updateUser fun _ => rfl

instance updateVerified (id : Uuid) (isVerified : Bool) (keeps) :
    frame.Allows (Database.updateUser id (fun user : User T => { user with isVerified }) keeps) :=
  of_updateUser fun _ => rfl

instance updateEmail (id : Uuid) (email : String) (isVerified : Bool) (keeps) :
    frame.Allows
      (Database.updateUser id (fun user : User T => { user with email, isVerified }) keeps) :=
  of_updateUser fun _ => rfl

end

instance insertTwoFactorAuth (record : TwoFactorAuth T) :
    Frame.sessions.Allows (Database.insertTwoFactorAuth record) where
  inside before after changed := by
    obtain ⟨-, -, _, -, rfl⟩ := Database.insertTwoFactorAuth_ok changed
    rfl
  numbered before after draws changed numbered := by
    obtain ⟨-, isUser, table, inserted, rfl⟩ := Database.insertTwoFactorAuth_ok changed
    refine ⟨numbered.users, ?_⟩
    intro id found present
    rw [Table.find_insert inserted] at present
    split at present
    next same =>
      obtain ⟨user, isUser⟩ := Option.isSome_iff_exists.mp isUser
      rw [same]
      exact numbered.users _ user isUser
    next => exact numbered.twoFactorAuth id found present

instance updateTwoFactorAuth (userId : Uuid) (change : TwoFactorAuth T → TwoFactorAuth T) (keeps) :
    Frame.sessions.Allows (Database.updateTwoFactorAuth userId change keeps) where
  inside before after changed := by
    obtain ⟨_, -, -, rfl⟩ := Database.updateTwoFactorAuth_ok changed
    rfl
  numbered before after draws changed numbered := by
    obtain ⟨_, -, -, rfl⟩ := Database.updateTwoFactorAuth_ok changed
    refine ⟨numbered.users, ?_⟩
    intro id record found
    rw [Table.find_modify] at found
    split at found
    · obtain ⟨stored, foundStored, -⟩ := Option.map_eq_some_iff.mp found
      exact numbered.twoFactorAuth id stored foundStored
    · exact numbered.twoFactorAuth id record found

instance deleteTwoFactorAuth (userId : Uuid) :
    Frame.sessions.Allows (Database.deleteTwoFactorAuth (T := T) userId) where
  inside before after changed := by cases changed; rfl
  numbered before after draws changed numbered := by
    cases changed
    refine ⟨numbered.users, ?_⟩
    intro id record found
    rw [Table.find_removeWhere, Option.filter_eq_some_iff] at found
    exact numbered.twoFactorAuth id record found.1

end Frame.Allows

variable (env : Environment T) [CommRing T] [LinearOrder T] {frame : Frame T}

/-! ## Rate limits -/

section
open RateLimiter
variable (identifier : String) (ip : Option String)

instance : (lockoutKey env identifier ip).Plain := by unfold lockoutKey; infer_instance
instance : (failcountKey env identifier ip).Plain := by unfold failcountKey; infer_instance

instance (key : String) (limit windowSeconds : ℕ) :
    Within frame (RateLimiter.hit key limit windowSeconds : App T Unit) := by
  unfold RateLimiter.hit; infer_instance

instance : Within frame (ensureNotLocked env identifier ip) := by
  unfold ensureNotLocked; infer_instance

instance : Within frame (recordFailure env identifier ip) := by
  unfold recordFailure; infer_instance

instance : Within frame (clearFailures env identifier ip) := by
  unfold clearFailures; infer_instance

end

/-! ## Tokens -/

section
open TokenService

instance (token : Token) (expected : TokenType) :
    Within frame (decodeToken token expected : App T Claims) := by
  unfold decodeToken
  cases token <;> infer_instance

theorem run_decodeToken_signed (server : Server T) (claims : Claims) (expected : TokenType) :
    (decodeToken (.signed claims) expected).run handle server =
      (if (claims.exp : T) ≤ server.clock then .error (.jwt "Signature has expired")
        else if claims.type ≠ expected then .error (.jwt "wrong token type") else .ok claims,
        server) := by
  simp only [decodeToken, run_bind, run_now, run_ite, run_throw, run_pure]
  split
  · rfl
  · split <;> rfl

theorem verifyAccess_ok {server final : Server T} {token : Token} {claims : Claims}
    (ran : (TokenService.verifyAccess token).run handle server = (.ok claims, final)) :
    final = server ∧ token = .signed claims ∧ claims.type = .access ∧
      server.clock < (claims.exp : T) := by
  cases token with
  | unsigned => cases ran
  | signed presented =>
    simp only [TokenService.verifyAccess, run_tryCatch, run_decodeToken_signed] at ran
    by_cases expired : (presented.exp : T) ≤ server.clock
    · rw [if_pos expired] at ran
      cases ran
    · rw [if_neg expired] at ran
      by_cases type : presented.type = .access
      · rw [if_neg (not_not.mpr type)] at ran
        cases ran
        exact ⟨rfl, rfl, type, not_le.mp expired⟩
      · rw [if_pos type] at ran
        cases ran

instance (token : Token) : Within frame (verifyPreAuth token : App T Uuid) := by
  unfold verifyPreAuth; infer_instance

instance (token : Token) : Within frame (verifyAccess token : App T Claims) := by
  unfold verifyAccess; infer_instance

instance (jti : Uuid) : Within frame (isRevoked jti : App T Bool) := by
  unfold isRevoked; infer_instance

instance (token : Token) : Within frame (verifyRefresh token : App T Claims) := by
  unfold verifyRefresh; infer_instance

variable [FloorRing T]

instance (subject : Uuid) (type : TokenType) (lifetimeSeconds : ℕ) (sid : Option Uuid)
    (rememberMe : Bool) :
    Within frame (createToken subject type lifetimeSeconds sid rememberMe : App T Claims) := by
  unfold createToken; infer_instance

instance (userId : Uuid) (rememberMe : Bool) (sessionId : Option Uuid) :
    Within frame (issuePair env userId rememberMe sessionId) := by
  unfold issuePair; infer_instance

instance (userId : Uuid) : Within frame (issuePreAuth env userId) := by
  unfold issuePreAuth; infer_instance

end

/-! ## Users and sessions -/

instance (user : User T) (sessionUuid : Uuid) :
    Within frame (SessionService.getOwned user sessionUuid : App T (Session T)) := by
  unfold SessionService.getOwned
  refine Within.sequence fun db => ?_
  split <;> infer_instance

instance (user : User T) (current : Session T) :
    Within frame (SessionService.previousLogin user current) := by
  unfold SessionService.previousLogin; infer_instance

instance (password : String) : Within frame (validatePasswordStrength env password) := by
  unfold validatePasswordStrength; infer_instance

instance (email : String) : Within frame (getByEmail env email) := by
  unfold getByEmail
  refine Within.sequence fun db => ?_
  split <;> infer_instance

section
variable [covers : frame.CoversStanding]

omit [CommRing T] [LinearOrder T] in
theorem standing_insertUser {user : User T} {before after : Database T}
    (inserted : Database.insertUser user before = .ok after) : Frame.Standing before after := by
  obtain ⟨-, -, users, added, rfl⟩ := Database.insertUser_ok inserted
  exact ⟨rfl, rfl, fun id stored found => ⟨stored, Table.find_insert_of_found added found, rfl⟩⟩

omit [CommRing T] [LinearOrder T] in
theorem wellNumbered_insertUser {user : User T} {before after : Database T} {draws : ℕ}
    (inserted : Database.insertUser user before = .ok after) (numbered : before.WellNumbered draws)
    (fresh : user.id < draws) : after.WellNumbered draws := by
  obtain ⟨-, -, users, added, rfl⟩ := Database.insertUser_ok inserted
  refine ⟨?_, numbered.twoFactorAuth⟩
  intro id stored found
  rw [Table.find_insert added] at found
  split at found
  next same => rw [same]; exact fresh
  next => exact numbered.users id stored found

instance (email hashedPassword fullName : String) (isVerified : Bool) :
    Within frame (addUser email hashedPassword fullName isVerified : App T (User T)) :=
  Within.of_run fun server => by
    simp only [addUser, run_bind, run_view, run_uuid4, run_now, run_write]
    split
    next result final ran =>
      split at ran
      next working inserted =>
        cases ran
        exact {
          clock := rfl
          draws := Nat.le_succ _
          committed := rfl
          working := covers.covers _ _ (standing_insertUser inserted)
          blacklist := fun _ => rfl
          wellNumbered := fun numbered =>
            wellNumbered_insertUser inserted (numbered.mono (Nat.le_succ _)) (Nat.lt_succ_self _) }
      next => cases ran
    next error final ran =>
      split at ran
      next => cases ran
      next =>
        cases ran
        exact ⟨rfl, Nat.le_succ _, rfl, frame.refl _, fun _ => rfl, fun numbered =>
          numbered.mono (Nat.le_succ _)⟩

instance (email password fullName : String) :
    Within frame (AuthService.register env email password fullName) := by
  simp only [AuthService.register, throw_bind]; infer_instance

instance (email password ip : String) :
    Within frame (AuthService.authenticate env email password ip) := by
  simp only [AuthService.authenticate, throw_bind]
  refine Within.sequence fun _ => Within.sequence fun user => Within.sequence fun salt => ?_
  split <;> infer_instance

end

/-! ## Two-factor authentication -/

section
open TwoFactorService
variable (user : User T)

instance (password : String) : Within frame (requirePassword env user password) := by
  unfold requirePassword; infer_instance

instance (ciphertext : String) : Within frame (TwoFactorService.decrypt env ciphertext) := by
  unfold TwoFactorService.decrypt
  split <;> infer_instance

instance (password : String) : Within .sessions (startSetup env user password) := by
  simp only [startSetup, throw_bind]
  refine Within.sequence fun _ => Within.sequence fun db => ?_
  cases db.twoFactorAuth.find user.id <;> infer_instance

instance : Within frame (getPendingSecret env user) := by
  unfold getPendingSecret
  refine Within.sequence fun db => ?_
  split <;> infer_instance

instance (otp : String) : Within .sessions (confirmSetup env user otp) := by
  simp only [confirmSetup, throw_bind]
  refine Within.sequence fun db => ?_
  split <;> infer_instance

instance : Within frame (enabledRecord user) := by
  unfold enabledRecord
  refine Within.sequence fun db => ?_
  split <;> infer_instance

instance (otp : String) : Within frame (verifyTotp env user otp) := by
  simp only [verifyTotp, throw_bind]; infer_instance

instance within_drawLetters (count : ℕ) : Within frame (drawLetters env count) := by
  induction count with
  | zero => unfold drawLetters; infer_instance
  | succ count inductionHypothesis => unfold drawLetters; infer_instance

instance : Within frame (generateCode env) := by unfold generateCode; infer_instance

instance within_generateCodes (count : ℕ) : Within frame (generateCodes env count) := by
  induction count with
  | zero => unfold generateCodes; infer_instance
  | succ count inductionHypothesis => unfold generateCodes; infer_instance

instance : Within frame (isEnabled user) := by unfold isEnabled; infer_instance

instance : Within frame (status user) := by unfold status; infer_instance

section
variable [frame.CoversStanding]

instance within_storeCodes (codes : List String) : Within frame (storeCodes env user codes) := by
  induction codes with
  | nil => unfold storeCodes; infer_instance
  | cons code codes inductionHypothesis => unfold storeCodes; infer_instance

instance (replace : Bool) : Within frame (generateRecoveryCodes env user replace) := by
  simp only [generateRecoveryCodes, throw_bind]; infer_instance

instance within_consumeFirst (normalized : String) (codes : List (BackupCode T)) :
    Within frame (consumeFirst env normalized codes) := by
  induction codes with
  | nil => unfold consumeFirst; infer_instance
  | cons code codes inductionHypothesis => unfold consumeFirst; infer_instance

instance (code : String) : Within frame (consumeRecoveryCode env user code) := by
  unfold consumeRecoveryCode; infer_instance

end

instance (password otp : String) : Within .sessions (disable env user password otp) := by
  unfold disable; infer_instance

end

/-! ## Email flows -/

section
open EmailAccountService
variable [frame.CoversStanding] (user : User T)

instance (purpose : Purpose) (ttlSeconds : ℕ) (newEmail : Option String) :
    Within frame (issue env user purpose ttlSeconds newEmail) := by
  unfold issue; infer_instance

instance (raw : String) (purpose : Purpose) : Within frame (consume env raw purpose) := by
  simp only [consume, throw_bind]
  refine Within.sequence fun db => ?_
  split <;> infer_instance

instance : Within frame (sendSignupEmails env user) := by unfold sendSignupEmails; infer_instance

instance : Within frame (EmailAccountService.resendVerification env user) := by
  unfold EmailAccountService.resendVerification; infer_instance

instance (email : String) : Within frame (requestPasswordReset env email) := by
  unfold requestPasswordReset
  refine Within.sequence fun found => ?_
  cases found <;> infer_instance

instance (newEmail password : String) :
    Within frame (requestEmailChange env user newEmail password) := by
  simp only [requestEmailChange, throw_bind]; infer_instance

instance (raw : String) : Within frame (EmailAccountService.verifyEmail env raw) := by
  unfold EmailAccountService.verifyEmail
  refine Within.sequence fun _ => Within.sequence fun db => ?_
  split <;> infer_instance

instance (raw newPassword : String) :
    Within frame (EmailAccountService.resetPassword env raw newPassword) := by
  unfold EmailAccountService.resetPassword
  refine Within.sequence fun _ => Within.sequence fun _ => Within.sequence fun db => ?_
  split <;> infer_instance

instance (raw : String) : Within frame (EmailAccountService.confirmEmailChange env raw) := by
  simp only [EmailAccountService.confirmEmailChange, throw_bind]
  refine Within.sequence fun _ => Within.sequence fun db => ?_
  split <;> infer_instance

end

/-! ## OAuth -/

section
open OAuthService
variable (registry : String → Option Provider)

instance (name : String) : Within frame (providerOr404 registry name : App T Provider) := by
  unfold providerOr404
  split <;> infer_instance

instance {α : Type} (result : Except AppError α) : Within frame (liftExcept result : App T α) := by
  cases result <;> (unfold liftExcept; infer_instance)

instance (provider : String) (mode : OAuthMode) (linkUserId : Option Uuid) :
    Within frame (startAuthorization env registry provider mode linkUserId) := by
  unfold startAuthorization; infer_instance

instance (state provider : String) : Within frame (popState state provider : App T OAuthState) := by
  unfold popState
  refine Within.sequence fun found => ?_
  split <;> infer_instance

end

section
open OAuthService
variable (registry : String → Option Provider) [frame.CoversStanding]

instance (info : OAuthUserInfo) (mode : OAuthMode) (linkUserId : Option Uuid) :
    Within frame (resolveUser env info mode linkUserId) := by
  simp only [resolveUser]
  split
  · refine Within.sequence fun db => ?_
    split <;> infer_instance
  · split
    · infer_instance
    · refine Within.sequence fun existing => ?_
      split <;> infer_instance

instance (provider : String) (payload : OAuthState) (info : OAuthUserInfo) :
    Within frame (resolveProfile env provider payload info) := by
  simp only [resolveProfile, throw_bind]
  refine Within.sequence fun db => ?_
  split
  · split
    · infer_instance
    · split <;> infer_instance
  · infer_instance

instance (provider code state : String) :
    Within frame (handleCallback env registry provider code state) := by
  unfold handleCallback; infer_instance

end

/-! ## Checks of the routes -/

section
variable (request : HttpRequest)

instance : Within frame (verifyCsrf request : App T Unit) := by
  unfold verifyCsrf
  split <;> infer_instance

instance (accepted : Bool) : Within frame (checkSchema accepted : App T Unit) := by
  unfold checkSchema; infer_instance

instance (email : String) : Within frame (checkEmail env email) := by
  unfold checkEmail
  split <;> infer_instance

instance : Within frame (authRateLimit env request) := by unfold authRateLimit; infer_instance

instance : Within frame (emailRateLimit env request) := by unfold emailRateLimit; infer_instance

instance (user : User T) : Within frame (twofaRateLimit env request user) := by
  unfold twofaRateLimit; infer_instance

instance : Within frame (rateLimitMiddleware env request) := by
  unfold rateLimitMiddleware; infer_instance

instance (context : AuthContext T) : Within frame (getCurrentSession context) := by
  unfold getCurrentSession
  split <;> infer_instance

instance (context : AuthContext T) (code : String) :
    Within frame (requirePermission context code) := by
  unfold requirePermission; infer_instance

instance (user : User T) : Within frame (userRead env user) := by
  unfold userRead
  refine Within.sequence fun db => ?_
  cases env.validEmail user.email <;> infer_instance

theorem userRead_id {user : User T} {read : UserRead T} {server final : Server T}
    (ran : (userRead env user).run handle server = (.ok read, final)) : read.id = user.id := by
  simp only [userRead, run_bind, run_view, run_ite, run_throw] at ran
  split at ran
  · cases ran
  · split at ran
    next => cases ran
    next =>
      rw [run_ite] at ran
      split at ran
      · cases ran
      · cases ran
        rfl

instance (userId : Uuid) : Within frame (loadUserForOtp userId : App T (User T)) := by
  unfold loadUserForOtp
  refine Within.sequence fun db => ?_
  split <;> infer_instance

instance within_readUsers (users : List (User T)) : Within frame (readUsers env users) := by
  induction users with
  | nil => unfold readUsers; infer_instance
  | cons user users inductionHypothesis => unfold readUsers; infer_instance

end

end EnterpriseAuth
