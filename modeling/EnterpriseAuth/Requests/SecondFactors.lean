import EnterpriseAuth.Requests.Calls
import EnterpriseAuth.Requests.MailedTokens
import EnterpriseAuth.Requests.TwoFactor

/-!
# What a request makes of the second factors

The routes that set up, confirm and disable the second factor of their caller, and the ones that
write rows of recovery codes.  All other routes leave both tables alone, and whether a code would be
accepted does not change before the route has asked.
-/

namespace EnterpriseAuth

open Effects Program TwoFactorService

set_option synthInstance.maxSize 1000

variable {T : Type} {env : Environment T}

/-! ## Requests beside the second factors -/

/-- The powers of a program that leaves the second factors alone. -/
def Powers.factorless : Powers := ⟨True, True, True, False⟩

instance : Powers.factorless.Commits := ⟨trivial⟩
instance : Powers.factorless.Flags := ⟨trivial⟩
instance : Powers.factorless.Mail := ⟨trivial⟩

/-- Neither the time nor the second factors have changed. -/
structure Server.FactorsKept (before after : Server T) : Prop where
  clock : after.clock = before.clock
  factors : before.working.KeepsSecondFactor after.working

theorem Server.FactorsKept.refl (server : Server T) : server.FactorsKept server :=
  ⟨rfl, rfl, rfl⟩

theorem Server.FactorsKept.trans {first second third : Server T} (left : first.FactorsKept second)
    (right : second.FactorsKept third) : first.FactorsKept third where
  clock := right.clock.trans left.clock
  factors :=
    { twoFactorAuth := right.factors.twoFactorAuth.trans left.factors.twoFactorAuth
      backupCodes := right.factors.backupCodes.trans left.factors.backupCodes }

section
variable [CommRing T] [LinearOrder T] {server final : Server T}

theorem Command.Allowed.factorsKept {command : Command T} (allowed : command.Allowed .factorless)
    (server : Server T) : server.FactorsKept (handle command server).2 := by
  cases command with
  | write change =>
    simp only [handle]
    split
    next working changed => exact ⟨rfl, (allowed _ _ changed).2.2.resolve_left id⟩
    next => exact .refl server
  | now | draw | redis | view | commit | addTask => exact ⟨rfl, rfl, rfl⟩

theorem factors_of_run {α : Type} {program : App T α} [conducts : Conducts .factorless program]
    {result : Except AppError α} (ran : program.run handle server = (result, final)) :
    server.FactorsKept final := by
  have keeps : Keeps handle (fun state => server.FactorsKept state) program :=
    conducts.every.keeps fun command state allowed kept => kept.trans (allowed.factorsKept state)
  have kept := keeps.final (.refl server)
  rwa [ran] at kept

/-! ## Which one-time codes are accepted -/

/-- The keys that decide whether a one-time code is accepted. -/
def Key.GuardsCodes : Key → Prop
  | .otpUsed .. | .lockout _ => True
  | _ => False

/-- The command is not about such a key. -/
def Command.Unguarded : Command T → Prop
  | .redis command => ¬ command.key.GuardsCodes
  | _ => True

instance : Admits (T := T) Command.Unguarded .now := ⟨trivial⟩
instance : Admits (T := T) Command.Unguarded .view := ⟨trivial⟩
instance : Admits (T := T) Command.Unguarded .commit := ⟨trivial⟩
instance (change : Database T → Except AppError (Database T)) :
    Admits Command.Unguarded (.write change) := ⟨trivial⟩

omit [CommRing T] [LinearOrder T] in
theorem opens_unguarded {key : Key} (unguarded : ¬ key.GuardsCodes) :
    Opens (T := T) Command.Unguarded key where
  opens command isKey := by
    subst isKey
    exact unguarded

instance (key : String) : Opens (T := T) Command.Unguarded (.rateLimit key) := opens_unguarded id
instance (sid : Uuid) : Opens (T := T) Command.Unguarded (.sessionRevoked sid) := opens_unguarded id
instance (sid : Uuid) : Opens (T := T) Command.Unguarded (.sessionTouch sid) := opens_unguarded id
instance (sid : Uuid) : Opens (T := T) Command.Unguarded (.sessionActive sid) := opens_unguarded id

/-- Nothing has changed that the acceptance of a one-time code depends on. -/
structure Server.Apart (before after : Server T) : Prop extends before.FactorsKept after where
  guards : ∀ key : Key, key.GuardsCodes → after.redis key = before.redis key

omit [CommRing T] [LinearOrder T] in
theorem Server.Apart.trans {first second third : Server T} (left : first.Apart second)
    (right : second.Apart third) : first.Apart third where
  toFactorsKept := left.toFactorsKept.trans right.toFactorsKept
  guards key guarded := (right.guards key guarded).trans (left.guards key guarded)

theorem apart_of_run {α : Type} {program : App T α} [Conducts .factorless program]
    [calls : Calls Command.Unguarded program] {result : Except AppError α}
    (ran : program.run handle server = (result, final)) : server.Apart final := by
  refine ⟨factors_of_run ran, fun key guarded => ?_⟩
  have keeps : Keeps handle (fun state : Server T => state.redis key = server.redis key) program := by
    refine calls.every.keeps fun command state unguarded same => ?_
    cases command with
    | redis command =>
      have other : command.writes ≠ some key := by
        intro written
        have isKey : command.key = key := by
          cases command <;> simp_all [RedisCommand.writes, RedisCommand.key]
        exact unguarded (isKey ▸ guarded)
      exact (RedisCommand.execute_other other _ _).trans same
    | write change =>
      simp only [handle]
      split <;> exact same
    | now | draw | view | commit | addTask => exact same
  have same := keeps.final rfl
  rwa [ran] at same

section
open SessionService

instance (sid : Uuid) : Calls Command.Unguarded (clearCache env sid) := by
  unfold clearCache; infer_instance

instance (record : Session T) (now : T) : Calls Command.Unguarded (touch env record now) := by
  unfold touch setActive; infer_instance

instance (record : Session T) (reason : String) :
    Calls Command.Unguarded (expire env record reason) := by
  unfold expire; infer_instance

instance (sid userId : Uuid) : Calls Command.Unguarded (validateAndTouch env sid userId) := by
  simp only [validateAndTouch, throw_bind]
  refine .sequence fun revoked => ?_
  split
  · infer_instance
  · refine .sequence fun db => ?_
    split <;> infer_instance

instance (token : Token) (expected : TokenType) :
    Calls Command.Unguarded (decodeToken token expected : App T Claims) := by
  unfold decodeToken
  cases token <;> infer_instance

instance (request : HttpRequest) : Calls Command.Unguarded (getAuthContext env request) := by
  simp only [getAuthContext, TokenService.verifyAccess, throw_bind]
  split
  · infer_instance
  · refine .sequence fun payload => .sequence fun db => ?_
    split
    · infer_instance
    · split
      · infer_instance
      · split <;> infer_instance

end

instance (request : HttpRequest) (user : User T) :
    Calls Command.Unguarded (twofaRateLimit env request user) := by
  unfold twofaRateLimit; infer_instance

omit [CommRing T] [LinearOrder T] in
instance (request : HttpRequest) : Calls Command.Unguarded (verifyCsrf request : App T Unit) := by
  unfold verifyCsrf
  split <;> infer_instance

instance (user : User T) (password : String) :
    Calls Command.Unguarded (requirePassword env user password) := by
  unfold requirePassword; infer_instance

/-- The code would be accepted now. -/
structure Server.AcceptsOtp (env : Environment T) (server : Server T) (user : User T)
    (otp : String) : Prop where
  unlocked : ¬ server.lockedOut env user
  valid : ∃ record secret, server.OtpValid env user otp record secret
  unmarked : server.redis.lookup server.clock (.otpUsed user.id otp) = none

theorem verifyTotp_ok_iff {user : User T} {otp : String} :
    ((verifyTotp env user otp).run handle server).1 = .ok () ↔ server.AcceptsOtp env user otp := by
  have outcome := outcome_verifyTotp env user server otp
  generalize (verifyTotp env user otp).run handle server = result at outcome ⊢
  obtain ⟨reply, left⟩ := result
  cases outcome with
  | locked locked => exact iff_of_false (by simp) fun accepts => accepts.unlocked locked
  | notEnabled _ off =>
    refine iff_of_false (by simp) fun accepts => off ?_
    obtain ⟨record, secret, valid⟩ := accepts.valid
    exact ⟨record, valid.found, valid.enabled⟩
  -- the record is there but its secret cannot be read
  | undecipherable _ found unreadable =>
    refine iff_of_false (by simp) fun accepts => ?_
    obtain ⟨record, secret, valid⟩ := accepts.valid
    have decrypted := valid.decrypted
    have same := valid.found
    rw [found] at same
    cases same
    rw [unreadable] at decrypted
    cases decrypted
  | used _ _ marked =>
    refine iff_of_false (by simp) fun accepts => ?_
    rw [accepts.unmarked] at marked
    cases marked
  | invalid _ _ wrong =>
    refine iff_of_false (by simp) fun accepts => ?_
    obtain ⟨record, secret, valid⟩ := accepts.valid
    exact wrong record secret valid
  | accepted unlocked valid unmarked =>
    exact iff_of_true rfl ⟨unlocked, ⟨_, _, valid⟩, unmarked⟩

omit [CommRing T] in
/-- What a request has done before it asks for the code makes no difference. -/
theorem Server.AcceptsOtp.apart {user : User T} {otp : String} (accepts : final.AcceptsOtp env user otp)
    (apart : server.Apart final) : server.AcceptsOtp env user otp where
  unlocked locked := by
    refine accepts.unlocked ?_
    rwa [Server.lockedOut, Server.Locked, apart.clock, ExpiringStore.lookup_congr
      (apart.guards (RateLimiter.lockoutKey env (lockId user.id) none) trivial)]
  valid := by
    obtain ⟨record, secret, valid⟩ := accepts.valid
    refine ⟨record, secret, ?_, valid.enabled, valid.decrypted, ?_⟩
    · rw [← apart.factors.twoFactorAuth, valid.found]
    · rw [← apart.clock, valid.verified]
  unmarked := by
    rw [← ExpiringStore.lookup_congr (apart.guards (.otpUsed user.id otp) trivial), ← apart.clock]
    exact accepts.unmarked

end

/-! ## Setup -/

/-- The record is for this secret. -/
def TwoFactorAuth.Holds (env : Environment T) (record : TwoFactorAuth T) (secret : String) : Prop :=
  env.decrypt record.encryptedSecret = some secret ∨
    ∃ nonce, record.encryptedSecret = env.encrypt nonce secret

/-- A pending record for a new secret is stored for a user whose second factor is off. -/
structure Pending (env : Environment T) (before after : Database T) (userId : Uuid)
    (secret : String) : Prop where
  off : ¬ before.TwoFactorOn userId
  stored : ∃ record, after.twoFactorAuth.find userId = some record ∧ record.enabled = false ∧
    record.Holds env secret
  others : ∀ other, other ≠ userId →
    after.twoFactorAuth.find other = before.twoFactorAuth.find other
  backupCodes : after.backupCodes = before.backupCodes

/-- The pending record of the user is enabled by a code that is valid for its secret. -/
structure Confirmed (env : Environment T) (now : T) (before after : Database T) (userId : Uuid)
    (otp : String) (record : TwoFactorAuth T) : Prop where
  found : before.twoFactorAuth.find userId = some record
  pending : record.enabled = false
  verified : ∃ secret, env.decrypt record.encryptedSecret = some secret ∧
    env.totpVerify secret otp env.settings.totpValidWindow now = true
  enabled : ∀ other, after.twoFactorAuth.find other =
    if other = userId then some { record with enabled := true, verifiedAt := some now }
    else before.twoFactorAuth.find other
  backupCodes : after.backupCodes = before.backupCodes

/-- The record of the user and all rows of recovery codes are removed. -/
structure Disabled (before after : Database T) (userId : Uuid) : Prop where
  twoFactorAuth : ∀ other, after.twoFactorAuth.find other =
    if other = userId then none else before.twoFactorAuth.find other
  backupCodes : ∀ row ∈ after.backupCodes.rows, row ∈ before.backupCodes.rows ∧ row.userId ≠ userId

theorem not_twoFactorOn {db : Database T} {userId : Uuid}
    (off : ((db.twoFactorAuth.find userId).map (·.enabled)).getD false ≠ true) :
    ¬ db.TwoFactorOn userId := by
  rintro ⟨record, found, enabled⟩
  simp [found, enabled] at off

/-- An abandoned setup that is started again is pending for the new secret. -/
theorem restarted_pending {loaded : TwoFactorAuth T} (pending : loaded.enabled = false)
    (encryptedSecret : String) : (restarted loaded encryptedSecret loaded).enabled = false ∧
      (restarted loaded encryptedSecret loaded).encryptedSecret = encryptedSecret := by
  refine ⟨by simp [restarted, pending], ?_⟩
  simp only [restarted]
  split
  next unchanged => exact unchanged.symm
  next => rfl

section
variable [CommRing T] [LinearOrder T] {server final : Server T} {user : User T}

theorem run_write_ok {change : Database T → Except AppError (Database T)}
    (ran : (write change).run handle server = (.ok (), final)) :
    ∃ working, change server.working = .ok working ∧ final = { server with working } := by
  rw [run_write] at ran
  split at ran
  next working changed => cases ran; exact ⟨working, changed, rfl⟩
  next => cases ran

theorem startSetup_ok {password secret : String}
    (ran : (startSetup env user password).run handle server = (.ok secret, final)) :
    Pending env server.working final.working user.id secret := by
  simp only [startSetup, throw_bind] at ran
  obtain ⟨_, checked, checks, rest⟩ := run_bind_ok ran
  have same : checked.working = server.working := (Within.of_exact .reads checks).working
  simp only [run_bind, run_view, run_ite, run_throw, run_uuid4, same] at rest
  split at rest
  · cases rest
  -- a record that is not enabled is overwritten, a missing one inserted
  next off =>
    have off := not_twoFactorOn off
    cases found : server.working.twoFactorAuth.find user.id with
    | none =>
      rw [found] at rest
      obtain ⟨_, written, writes, done⟩ := run_bind_ok rest
      obtain ⟨working, inserted, rfl⟩ := run_write_ok writes
      cases done
      obtain ⟨-, -, table, added, rfl⟩ := Database.insertTwoFactorAuth_ok inserted
      have after := Table.find_insert added
      refine ⟨off, ⟨_, (after user.id).trans (if_pos rfl), rfl, .inr ⟨_, rfl⟩⟩, ?_, rfl⟩
      exact fun other different => (after other).trans (if_neg different)
    | some loaded =>
      have pending : loaded.enabled = false := by
        by_contra enabled
        exact off ⟨loaded, found, by simpa using enabled⟩
      rw [found] at rest
      obtain ⟨_, written, writes, done⟩ := run_bind_ok rest
      obtain ⟨working, updated, rfl⟩ := run_write_ok writes
      cases done
      obtain ⟨_, -, -, rfl⟩ := Database.updateTwoFactorAuth_ok updated
      obtain ⟨stillPending, encrypted⟩ := restarted_pending pending
        (env.encrypt (checked.draws + 1) (env.randomBase32 checked.draws))
      refine ⟨off, ⟨_, ?_, stillPending, .inr ⟨_, encrypted⟩⟩, ?_, rfl⟩
      · simp [found]
      · intro other different
        simp [different]

theorem getPendingSecret_ok {secret : String}
    (ran : (getPendingSecret env user).run handle server = (.ok secret, final)) :
    final = server ∧ ∃ record, server.working.twoFactorAuth.find user.id = some record ∧
      record.enabled = false ∧ env.decrypt record.encryptedSecret = some secret := by
  simp only [getPendingSecret, run_bind, run_view] at ran
  split at ran
  next => cases ran
  next record found =>
    rw [run_ite] at ran
    split at ran
    next => cases ran
    next pending =>
      unfold TwoFactorService.decrypt at ran
      split at ran
      next => cases ran
      next plaintext decrypted =>
        cases ran
        exact ⟨rfl, record, found, by simpa using pending, decrypted⟩

theorem confirmSetup_ok {otp : String}
    (ran : (confirmSetup env user otp).run handle server = (.ok (), final)) :
    ∃ record, Confirmed env server.clock server.working final.working user.id otp record := by
  simp only [confirmSetup, throw_bind, run_bind, run_view] at ran
  split at ran
  next => cases ran
  next record found =>
    rw [run_ite] at ran
    split at ran
    next => cases ran
    next pending =>
      unfold TwoFactorService.decrypt at ran
      cases decrypted : env.decrypt record.encryptedSecret with
      | none => simp [decrypted] at ran
      | some secret =>
        simp only [decrypted, run_bind, run_pure, run_now, run_ite, run_throw, run_write] at ran
        split at ran
        next => cases ran
        next verified =>
          split at ran
          next working updated =>
            cases ran
            obtain ⟨_, -, -, rfl⟩ := Database.updateTwoFactorAuth_ok updated
            refine ⟨record, found, by simpa using pending, ⟨secret, decrypted, by simpa using verified⟩,
              fun other => ?_, rfl⟩
            by_cases own : other = user.id
            · simp [own, found]
            · simp [own]
          next => cases ran

/-! ## Disabling -/

theorem requirePassword_ok {password : String}
    (ran : (requirePassword env user password).run handle server = (.ok (), final)) :
    env.verifyPassword password user.hashedPassword = true ∧ final = server := by
  rw [requirePassword, run_ite] at ran
  split at ran
  · cases ran
  next right =>
    cases ran
    exact ⟨by simpa using right, rfl⟩

theorem disable_ok {password otp : String}
    (ran : (disable env user password otp).run handle server = (.ok (), final)) :
    env.verifyPassword password user.hashedPassword = true ∧ server.AcceptsOtp env user otp ∧
      Disabled server.working final.working user.id := by
  unfold TwoFactorService.disable at ran
  obtain ⟨_, checked, checks, rest⟩ := run_bind_ok ran
  obtain ⟨right, rfl⟩ := requirePassword_ok checks
  obtain ⟨_, verified, verifies, rest⟩ := run_bind_ok rest
  have accepts : checked.AcceptsOtp env user otp := verifyTotp_ok_iff.mp (by rw [verifies])
  have same : verified.working = checked.working := (Within.of_exact .reads verifies).working
  obtain ⟨record, secret, valid⟩ := accepts.valid
  refine ⟨right, accepts, ?_⟩
  simp only [run_bind, run_view, same, valid.found, Option.isSome_some, if_true, run_write,
    Database.deleteTwoFactorAuth, Database.deleteBackupCodes] at rest
  cases rest
  refine ⟨fun other => ?_, fun row member => ?_⟩
  · rw [Table.find_removeWhere]
    cases stored : checked.working.twoFactorAuth.find other with
    | none => simp
    | some record =>
      have owner : record.userId = other := Table.find_key stored
      by_cases own : other = user.id <;> simp [own, owner]
  · simpa [Table.removeWhere] using member

end

/-! ## Rows of recovery codes -/

/-- The second factors stay, and rows are for users who had some before or may gain some. -/
structure CodesOf (gains : Uuid → Prop) (before after : Database T) : Prop where
  twoFactorAuth : after.twoFactorAuth = before.twoFactorAuth
  owners : ∀ row ∈ after.backupCodes.rows, gains row.userId ∨
    ∃ earlier ∈ before.backupCodes.rows, earlier.userId = row.userId

variable {gains : Uuid → Prop}

theorem CodesOf.of_kept {before after : Database T} (kept : before.KeepsSecondFactor after) :
    CodesOf gains before after :=
  ⟨kept.twoFactorAuth, fun row member => .inr ⟨row, kept.backupCodes ▸ member, rfl⟩⟩

theorem CodesOf.trans {first second third : Database T} (left : CodesOf gains first second)
    (right : CodesOf gains second third) : CodesOf gains first third where
  twoFactorAuth := right.twoFactorAuth.trans left.twoFactorAuth
  owners row member := by
    rcases right.owners row member with gained | ⟨earlier, stored, owner⟩
    · exact .inl gained
    · rw [← owner]
      exact left.owners earlier stored

/-- The command writes nothing of the second factors but rows of recovery codes. -/
def Command.WritesCodes (gains : Uuid → Prop) : Command T → Prop
  | .write change => ∀ before after, change before = .ok after → CodesOf gains before after
  | _ => True

instance : Admits (T := T) (Command.WritesCodes gains) .now := ⟨trivial⟩
instance : Admits (T := T) (Command.WritesCodes gains) .draw := ⟨trivial⟩
instance : Admits (T := T) (Command.WritesCodes gains) .view := ⟨trivial⟩
instance (key : Key) : Opens (T := T) (Command.WritesCodes gains) key := ⟨fun _ _ => trivial⟩

instance (id userId : Uuid) (hashedCode : String) :
    Admits (T := T) (Command.WritesCodes (· = userId))
      (.write (Database.insertBackupCode { id, userId, hashedCode })) where
  admits before after changed := by
    obtain ⟨-, -, table, added, rfl⟩ := Database.insertBackupCode_ok changed
    refine ⟨rfl, fun row member => ?_⟩
    simp only [(Table.insert_eq_some added).2, List.mem_append, List.mem_singleton] at member
    rcases member with stored | rfl
    · exact .inr ⟨row, stored, rfl⟩
    · exact .inl rfl

instance (userId : Uuid) :
    Admits (T := T) (Command.WritesCodes gains) (.write (Database.deleteBackupCodes userId)) where
  admits before after changed := by
    cases changed
    exact ⟨rfl, fun row member => .inr ⟨row, List.mem_of_mem_filter member, rfl⟩⟩

instance (id : Uuid) (now : T) : Admits (Command.WritesCodes gains)
    (.write (Database.updateBackupCode id (fun code => { code with usedAt := some now })
      fun _ => rfl)) where
  admits before after changed := by
    obtain ⟨_, -, rfl⟩ := Database.updateBackupCode_ok changed
    refine ⟨rfl, fun row member => .inr ?_⟩
    obtain ⟨earlier, stored, rfl⟩ := List.mem_map.mp member
    refine ⟨earlier, stored, ?_⟩
    split <;> rfl

section
variable {allowed : Command T → Prop} [Admits allowed .draw]

instance (count : ℕ) : Calls allowed (drawLetters env count) := by
  induction count with
  | zero => unfold drawLetters; infer_instance
  | succ count inductionHypothesis => unfold drawLetters; infer_instance

instance (count : ℕ) : Calls allowed (generateCodes env count) := by
  induction count with
  | zero => unfold generateCodes; infer_instance
  | succ count inductionHypothesis => unfold generateCodes generateCode; infer_instance

end

instance (user : User T) (codes : List String) :
    Calls (Command.WritesCodes (· = user.id)) (storeCodes env user codes) := by
  induction codes with
  | nil => unfold storeCodes; infer_instance
  | cons code codes inductionHypothesis => unfold storeCodes; infer_instance

instance (user : User T) (replace : Bool) :
    Calls (Command.WritesCodes (· = user.id)) (generateRecoveryCodes env user replace) := by
  simp only [generateRecoveryCodes, throw_bind]; infer_instance

instance (normalized : String) (candidates : List (BackupCode T)) :
    Calls (Command.WritesCodes gains) (consumeFirst env normalized candidates) := by
  induction candidates with
  | nil => unfold consumeFirst; infer_instance
  | cons candidate candidates inductionHypothesis => unfold consumeFirst; infer_instance

instance (user : User T) (code : String) :
    Calls (Command.WritesCodes gains) (consumeRecoveryCode env user code) := by
  unfold consumeRecoveryCode; infer_instance

theorem codes_of_run [CommRing T] [LinearOrder T] {α : Type} {program : App T α}
    [calls : Calls (Command.WritesCodes gains) program] {server final : Server T}
    {result : Except AppError α} (ran : program.run handle server = (result, final)) :
    CodesOf gains server.working final.working := by
  have keeps : Keeps handle (fun state => CodesOf gains server.working state.working) program := by
    refine calls.every.keeps fun command state writes codes => ?_
    cases command with
    | write change =>
      simp only [handle]
      split
      next working changed => exact codes.trans (writes _ _ changed)
      next => exact codes
    | now | draw | redis | view | commit | addTask => exact codes
  have codes := keeps.final (.of_kept ⟨rfl, rfl⟩)
  rwa [ran] at codes

/-! ## Routes behind the access token -/

/-- The secret of a second factor that the page shows. -/
def Page.secret : Page T → Option String
  | .setup secret | .qrcode secret _ => some secret
  | _ => none

def Reply.secret : Reply T → Option String
  | .page shown => shown.secret
  | .login _ | .refreshed .. => none

/-- The request shows an access token of the user. -/
def HttpRequest.ActsFor (request : HttpRequest) (userId : Uuid) : Prop :=
  ∃ claims, request.accessToken = some (.signed claims) ∧ claims.sub = userId

/-- What a request of the user to the route makes of the second factors, with the page that it is
answered. -/
inductive FactorOutcome [LinearOrder T] (env : Environment T) (server : Server T) (user : User T)
    (after : Database T) : ProtectedRoute → Page T → Prop
  | kept {route : ProtectedRoute} {page : Page T} (hidden : page.secret = none)
    (kept : server.working.KeepsSecondFactor after) : FactorOutcome env server user after route page
  | shown {secret email : String} {record : TwoFactorAuth T}
    (found : server.working.twoFactorAuth.find user.id = some record)
    (pending : record.enabled = false) (decrypted : env.decrypt record.encryptedSecret = some secret)
    (kept : server.working.KeepsSecondFactor after) :
    FactorOutcome env server user after .twoFactorQrcode (.qrcode secret email)
  | setup {password secret : String} (pending : Pending env server.working after user.id secret) :
    FactorOutcome env server user after (.twoFactorSetup password) (.setup secret)
  | confirmed {otp detail : String} {record : TwoFactorAuth T}
    (confirmed : Confirmed env server.clock server.working after user.id otp record) :
    FactorOutcome env server user after (.twoFactorVerify otp) (.message detail)
  | codes {route : ProtectedRoute} {codes : List String} (enabled : server.working.TwoFactorOn user.id)
    (written : CodesOf (· = user.id) server.working after) :
    FactorOutcome env server user after route (.recoveryCodes codes)
  | disabled {password otp detail : String}
    (right : env.verifyPassword password user.hashedPassword = true)
    (accepts : server.AcceptsOtp env user otp) (disabled : Disabled server.working after user.id) :
    FactorOutcome env server user after (.twoFactorDisable password otp) (.message detail)

section
variable [CommRing T] [LinearOrder T] {server final : Server T} {user : User T}

omit [CommRing T] in
/-- What has happened apart from the second factors does not matter to them. -/
theorem FactorOutcome.apart {start : Server T} {after : Database T} {route : ProtectedRoute}
    {page : Page T} (outcome : FactorOutcome env server user after route page)
    (apart : start.Apart server) : FactorOutcome env start user after route page := by
  have same := apart.factors.twoFactorAuth
  have codes := apart.factors.backupCodes
  cases outcome with
  | kept hidden kept =>
    exact .kept hidden ⟨kept.twoFactorAuth.trans same, kept.backupCodes.trans codes⟩
  | shown found pending decrypted kept =>
    exact .shown (same ▸ found) pending decrypted
      ⟨kept.twoFactorAuth.trans same, kept.backupCodes.trans codes⟩
  | setup pending =>
    obtain ⟨off, stored, others, kept⟩ := pending
    simp only [Database.TwoFactorOn, same, codes] at off others kept
    exact .setup ⟨off, stored, others, kept⟩
  | confirmed confirmed =>
    obtain ⟨found, pending, verified, enabled, kept⟩ := confirmed
    simp only [same, codes, apart.clock] at found verified enabled kept
    exact .confirmed ⟨found, pending, verified, enabled, kept⟩
  | codes enabled written =>
    refine .codes ?_ ⟨written.twoFactorAuth.trans same, ?_⟩
    · simpa only [Database.TwoFactorOn, same] using enabled
    · simpa only [codes] using written.owners
  | disabled right accepts disabled =>
    obtain ⟨removed, dropped⟩ := disabled
    simp only [same, codes] at removed dropped
    exact .disabled right (accepts.apart apart) ⟨removed, dropped⟩

/-- No page of these routes shows a secret. -/
theorem hides_serveWithContext (registry : String → Option Provider) (request : HttpRequest)
    (context : AuthContext T) {route : ProtectedRoute}
    (setup : ∀ password, route ≠ .twoFactorSetup password)
    (qrcode : route ≠ .twoFactorQrcode) :
    (serveWithContext env registry request context route).Every (fun _ => True)
      fun page => page.secret = none := by
  cases route <;> simp only [serveWithContext]
  case twoFactorSetup password => exact absurd rfl (setup password)
  case twoFactorQrcode => exact absurd rfl qrcode
  case me | readMe | resendVerification | oauthLinks | oauthLink | twoFactorStatus | revokeSession =>
    exact .skip fun _ => .pure rfl
  case getSession | logoutCurrent | logoutAll | lastLogin =>
    exact .skip fun _ => .skip fun _ => .pure rfl
  case changeEmail | listSessions => exact .skip fun _ => .skip fun _ => .skip fun _ => .pure rfl
  case twoFactorVerify | twoFactorDisable | listUsers =>
    exact .skip fun _ => .skip fun _ => .skip fun _ => .skip fun _ => .pure rfl
  case recoveryCodes | regenerateRecoveryCodes =>
    exact .skip fun _ => .skip fun _ => .skip fun _ => .skip fun _ => .skip fun _ => .skip fun _ =>
      .pure rfl

/-- The checks of a route of the second factor come before anything is asked. -/
theorem factors_recoveryCodes {request : HttpRequest} {context : AuthContext T}
    {password otp : String} {replace : Bool} {page : Page T}
    (ran : (recoveryCodesRoute env request context password otp replace).run handle server =
      (.ok page, final)) (route : ProtectedRoute) :
    FactorOutcome env server context.user final.working route page := by
  unfold recoveryCodesRoute at ran
  obtain ⟨_, limited, limits, rest⟩ := run_bind_ok ran
  obtain ⟨_, checked, csrf, rest⟩ := run_bind_ok rest
  obtain ⟨_, fits, schema, rest⟩ := run_bind_ok rest
  obtain ⟨_, right, password, rest⟩ := run_bind_ok rest
  obtain ⟨_, verified, verifies, rest⟩ := run_bind_ok rest
  obtain ⟨codes, generated, generates, done⟩ := run_bind_ok rest
  cases done
  have apart := (apart_of_run limits).trans ((apart_of_run csrf).trans
    ((apart_of_run schema).trans (apart_of_run password)))
  have accepts : right.AcceptsOtp env context.user otp := verifyTotp_ok_iff.mp (by rw [verifies])
  obtain ⟨record, secret, valid⟩ := accepts.valid
  have written : CodesOf (· = context.user.id) right.working final.working :=
    (CodesOf.of_kept (factors_of_run verifies).factors).trans (codes_of_run generates)
  exact FactorOutcome.apart (.codes ⟨record, valid.found, valid.enabled⟩ written) apart

theorem factors_serveWithContext {registry : String → Option Provider} {request : HttpRequest}
    {context : AuthContext T} {route : ProtectedRoute} {page : Page T}
    (ran : (serveWithContext env registry request context route).run handle server =
      (.ok page, final)) :
    FactorOutcome env server context.user final.working route page := by
  cases writes : route.writesSecondFactor with
  -- routes without second factor statements: of these the QR code shows the pending secret
  | false =>
    have conducts : Conducts .factorless (serveWithContext env registry request context route) :=
      conducts_serveWithContext env registry request context (fun _ => trivial) (fun _ => trivial)
        (by simp [writes])
    have kept := (factors_of_run ran).factors
    by_cases qrcode : route = .twoFactorQrcode
    · subst qrcode
      simp only [serveWithContext, twoFactorQrcode] at ran
      obtain ⟨secret, shown, shows, done⟩ := run_bind_ok ran
      cases done
      obtain ⟨-, record, found, pending, decrypted⟩ := getPendingSecret_ok shows
      exact .shown found pending decrypted kept
    · have setup : ∀ password, route ≠ .twoFactorSetup password := by
        rintro password rfl
        cases writes
      have hides : Triple handle (fun _ => True)
          (serveWithContext env registry request context route) (fun page _ => page.secret = none)
          fun _ _ => True :=
        (hides_serveWithContext registry request context setup qrcode).triple
      exact .kept (hides.returned trivial ran) kept
  -- each of the others is the service behind the rate limit, the CSRF check and the schema
  | true =>
    cases route with
    | twoFactorSetup password =>
      simp only [serveWithContext, twoFactorSetup] at ran
      obtain ⟨_, limited, limits, rest⟩ := run_bind_ok ran
      obtain ⟨_, checked, csrf, rest⟩ := run_bind_ok rest
      obtain ⟨_, fits, schema, rest⟩ := run_bind_ok rest
      obtain ⟨secret, started, starts, done⟩ := run_bind_ok rest
      cases done
      have apart := (apart_of_run limits).trans ((apart_of_run csrf).trans (apart_of_run schema))
      exact FactorOutcome.apart (.setup (startSetup_ok starts)) apart
    | twoFactorVerify otp =>
      simp only [serveWithContext, twoFactorVerify] at ran
      obtain ⟨_, limited, limits, rest⟩ := run_bind_ok ran
      obtain ⟨_, checked, csrf, rest⟩ := run_bind_ok rest
      obtain ⟨_, fits, schema, rest⟩ := run_bind_ok rest
      obtain ⟨_, last, confirms, done⟩ := run_bind_ok rest
      cases done
      have apart := (apart_of_run limits).trans ((apart_of_run csrf).trans (apart_of_run schema))
      obtain ⟨record, confirmed⟩ := confirmSetup_ok confirms
      exact FactorOutcome.apart (.confirmed confirmed) apart
    | twoFactorDisable password otp =>
      simp only [serveWithContext, twoFactorDisable] at ran
      obtain ⟨_, limited, limits, rest⟩ := run_bind_ok ran
      obtain ⟨_, checked, csrf, rest⟩ := run_bind_ok rest
      obtain ⟨_, fits, schema, rest⟩ := run_bind_ok rest
      obtain ⟨_, last, disables, done⟩ := run_bind_ok rest
      cases done
      have apart := (apart_of_run limits).trans ((apart_of_run csrf).trans (apart_of_run schema))
      obtain ⟨right, accepts, disabled⟩ := disable_ok disables
      exact FactorOutcome.apart (.disabled right accepts disabled) apart
    | recoveryCodes password otp => exact factors_recoveryCodes ran _
    | regenerateRecoveryCodes password otp => exact factors_recoveryCodes ran _
    | _ => cases writes

/-- A request to a route behind the access token, on behalf of the user whose token it shows. -/
theorem factors_serveProtected {registry : String → Option Provider} {request : HttpRequest}
    {route : ProtectedRoute} {page : Page T}
    (ran : (serveProtected env registry request route).run handle server = (.ok page, final)) :
    ∃ user, server.working.users.find user.id = some user ∧ request.ActsFor user.id ∧
      FactorOutcome env server user final.working route page := by
  have served {start : Server T} (ran : (getAuthContext env request >>= fun context =>
      serveWithContext env registry request context route).run handle start = (.ok page, final)) :
      ∃ user, start.working.users.find user.id = some user ∧ request.ActsFor user.id ∧
        FactorOutcome env start user final.working route page := by
    obtain ⟨context, entered, enters, rest⟩ := run_bind_ok ran
    obtain ⟨-, -, claims, presented, owner⟩ :=
      (triple_getAuthContext start request).returned (.refl start) enters
    exact ⟨context.user, getAuthContext_user enters, ⟨claims, presented, owner.symm⟩,
      (factors_serveWithContext rest).apart (apart_of_run enters)⟩
  rw [serveProtected, run_ite] at ran
  split at ran
  · obtain ⟨_, checked, csrf, rest⟩ := run_bind_ok ran
    have same : checked.working = server.working := (Within.of_exact .reads csrf).working
    obtain ⟨user, stored, acts, outcome⟩ := served rest
    exact ⟨user, same ▸ stored, acts, outcome.apart (apart_of_run csrf)⟩
  · exact served ran

end

/-! ## Every route -/

/-- What a request that succeeds makes of the second factors. -/
inductive Server.Factors [LinearOrder T] (env : Environment T) (server : Server T) (arrival : Arrival)
    (reply : Reply T) (after : Database T) : Prop
  /-- a recovery code may be used up -/
  | elsewhere (hidden : reply.secret = none)
    (codes : CodesOf (fun _ => False) server.working after)
  | caller {route : ProtectedRoute} {page : Page T} {user : User T}
    (routed : arrival.route = .withAccess route) (answered : reply = .page page)
    (stored : server.working.users.find user.id = some user) (acts : arrival.http.ActsFor user.id)
    (outcome : FactorOutcome env server user after route page)

section
variable [CommRing T] [LinearOrder T] {server final : Server T}

omit [CommRing T] in
theorem Server.Factors.apart {start : Server T} {arrival : Arrival} {reply : Reply T}
    {after : Database T} (factors : server.Factors env arrival reply after)
    (users : server.working.users = start.working.users) (apart : start.Apart server) :
    start.Factors env arrival reply after := by
  cases factors with
  | elsewhere hidden codes => exact .elsewhere hidden ((CodesOf.of_kept apart.factors).trans codes)
  | caller routed answered stored acts outcome =>
    exact .caller routed answered (users ▸ stored) acts (outcome.apart apart)

/-- A page of an open route shows no secret. -/
theorem hides_serveOpen (registry : String → Option Provider) (request : HttpRequest)
    (route : OpenRoute) : (serveOpen env registry request route).Every (fun _ => True)
      fun page => page.secret = none := by
  cases route <;> simp only [serveOpen]
  case verifyEmail | confirmEmailChange => exact .skip fun _ => .skip fun _ => .pure rfl
  case forgotPassword | resetPassword =>
    exact .skip fun _ => .skip fun _ => .skip fun _ => .pure rfl
  case oauthAuthorize => exact .skip fun _ => .pure rfl

variable [FloorRing T]

theorem hides_refresh (request : HttpRequest) : (refresh env request).Every (fun _ => True)
    fun reply => reply.secret = none := by
  unfold refresh
  split
  · exact .throw _
  · refine .skip fun rotated => ?_
    obtain ⟨userId, sid, pair, refreshJti⟩ := rotated
    cases sid with
    | none => exact .skip fun _ => .pure rfl
    | some sid => exact .skip fun _ => .skip fun _ => .pure rfl

theorem hides_logout (request : HttpRequest) : (logout env request).Every (fun _ => True)
    fun page => page.secret = none := by
  refine .skip fun _ => ?_
  cases request.refreshToken with
  | none => exact .pure rfl
  | some token => exact .skip fun _ => .pure rfl

/-- The login with a recovery code uses up a row, and writes no other. -/
theorem codes_loginRecoveryCode {request : HttpRequest} {payload : RecoveryLoginRequest}
    {reply : LoginReply T}
    (ran : (loginRecoveryCode env request payload).run handle server = (.ok reply, final)) :
    CodesOf (fun _ => False) server.working final.working := by
  unfold loginRecoveryCode at ran
  obtain ⟨_, limited, limits, rest⟩ := run_bind_ok ran
  obtain ⟨_, fits, schema, rest⟩ := run_bind_ok rest
  obtain ⟨userId, authorized, authorizes, rest⟩ := run_bind_ok rest
  obtain ⟨user, loaded, loads, rest⟩ := run_bind_ok rest
  obtain ⟨_, consumed, consumes, rest⟩ := run_bind_ok rest
  have before : server.FactorsKept loaded := (factors_of_run limits).trans ((factors_of_run schema).trans
    ((factors_of_run authorizes).trans (factors_of_run loads)))
  exact ((CodesOf.of_kept before.factors).trans (codes_of_run consumes)).trans
    (.of_kept (factors_of_run rest).factors)

theorem factors_dispatch {arrival : Arrival} {reply : Reply T}
    (ran : (dispatch env arrival).run handle server = (.ok reply, final)) :
    server.Factors env arrival reply final.working := by
  cases routed : arrival.route with
  | login route =>
    simp only [dispatch, routed] at ran
    obtain ⟨answer, served, rfl⟩ := run_map_ok ran
    refine .elsewhere rfl ?_
    cases route with
    -- the one login that writes second factor rows: it marks a code as used
    | loginRecoveryCode payload => exact codes_loginRecoveryCode served
    | register | login | loginOtp | oauthCallback =>
      simp only [serveLogin] at served
      exact .of_kept (factors_of_run served).factors
  | refresh =>
    simp only [dispatch, routed] at ran
    have hides : Triple handle (fun _ => True) (refresh env arrival.http)
        (fun reply _ => reply.secret = none) fun _ _ => True := (hides_refresh arrival.http).triple
    exact .elsewhere (hides.returned trivial ran) (.of_kept (factors_of_run ran).factors)
  | logout =>
    simp only [dispatch, routed] at ran
    obtain ⟨page, served, rfl⟩ := run_map_ok ran
    have hides : Triple handle (fun _ => True) (logout env arrival.http)
        (fun page _ => page.secret = none) fun _ _ => True := (hides_logout arrival.http).triple
    exact .elsewhere (hides.returned trivial served) (.of_kept (factors_of_run served).factors)
  | openTo route =>
    simp only [dispatch, routed] at ran
    obtain ⟨page, served, rfl⟩ := run_map_ok ran
    have hides : Triple handle (fun _ => True) (serveOpen env arrival.registry arrival.http route)
        (fun page _ => page.secret = none) fun _ _ => True :=
      (hides_serveOpen arrival.registry arrival.http route).triple
    exact .elsewhere (hides.returned trivial served) (.of_kept (factors_of_run served).factors)
  | withAccess route =>
    simp only [dispatch, routed] at ran
    obtain ⟨page, served, rfl⟩ := run_map_ok ran
    obtain ⟨user, stored, acts, outcome⟩ := factors_serveProtected served
    exact .caller routed rfl stored acts outcome

end

end EnterpriseAuth
