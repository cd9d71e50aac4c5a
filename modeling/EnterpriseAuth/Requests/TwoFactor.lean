import EnterpriseAuth.Requests.LockoutWindows
import EnterpriseAuth.Requests.Statements

/-!
# The second factor on the server

What a verification of a code comes to, exactly: each constructor of an outcome is one way through
the function, with the reply and the server it leaves.
-/

namespace EnterpriseAuth

open Effects Program RateLimiter TwoFactorService

variable {T : Type} (env : Environment T)

/-! ## Records and codes -/

/-- The user's second factor is on. -/
def Database.TwoFactorOn (db : Database T) (userId : Uuid) : Prop :=
  ∃ record, db.twoFactorAuth.find userId = some record ∧ record.enabled = true

/-- The database in which a recovery code has been used up. -/
def Database.codeUsed (db : Database T) (id : Uuid) (now : T) : Database T :=
  { db with
    backupCodes := db.backupCodes.modify id (fun code => { code with usedAt := some now })
      (usedCode_id now) }

/-- The first unused code of the user that the text matches. -/
def Database.matching (db : Database T) (userId : Uuid) (normalized : String) :
    Option (BackupCode T) :=
  (db.listUnused userId).find? fun code => env.verifyPassword normalized code.hashedCode

theorem Database.matching_some {db : Database T} {userId : Uuid} {normalized : String}
    {code : BackupCode T} (found : db.matching env userId normalized = some code) :
    db.backupCodes.find code.id = some code ∧ code.userId = userId ∧ code.usedAt = none ∧
      env.verifyPassword normalized code.hashedCode = true := by
  have member := List.mem_of_find?_eq_some found
  have accepted := List.find?_some found
  obtain ⟨stored, unused⟩ := List.mem_filter.mp member
  simp only [Bool.and_eq_true, decide_eq_true_eq, Option.isNone_iff_eq_none] at unused
  exact ⟨Table.find_of_mem stored, unused.1, unused.2, accepted⟩

section
variable [CommRing T] [LinearOrder T]

def Server.lockedOut (server : Server T) (user : User T) : Prop :=
  server.Locked env (lockId user.id) none

/-- The failure has been counted. -/
def Server.failureRecorded (server : Server T) (user : User T) : Server T :=
  { server with
    redis := recordedFailure env (lockId user.id) none server.clock server.redis }

/-- The failures have been forgotten. -/
def Server.failuresCleared (server : Server T) (user : User T) : Server T :=
  { server with
    redis := (server.redis.remove (failcountKey env (lockId user.id) none)).remove
      (lockoutKey env (lockId user.id) none) }

/-- The code is marked as used for as long as it may be valid. -/
def Server.otpMarked (server : Server T) (user : User T) (otp : String) : Server T :=
  { server with
    redis := server.redis.put (.otpUsed user.id otp)
      ⟨.flag, some (server.clock + (replayTtl env : ℕ))⟩ }

/-! ## One-time codes -/

/-- The code is valid for the secret of the user's enabled record. -/
structure Server.OtpValid (server : Server T) (user : User T) (otp : String)
    (record : TwoFactorAuth T) (secret : String) : Prop where
  found : server.working.twoFactorAuth.find user.id = some record
  enabled : record.enabled = true
  decrypted : env.decrypt record.encryptedSecret = some secret
  verified : env.totpVerify secret otp env.settings.totpValidWindow server.clock = true

inductive TotpOutcome (user : User T) (otp : String) (server : Server T) :
    Except AppError Unit → Server T → Prop
  | locked (locked : server.lockedOut env user) :
    TotpOutcome user otp server (.error .accountLocked) server
  | notEnabled (unlocked : ¬ server.lockedOut env user)
    (off : ¬ server.working.TwoFactorOn user.id) :
    TotpOutcome user otp server (.error (.conflict "Two-factor authentication is not enabled."))
      server
  | undecipherable (unlocked : ¬ server.lockedOut env user) {record : TwoFactorAuth T}
    (found : server.working.twoFactorAuth.find user.id = some record)
    (unreadable : env.decrypt record.encryptedSecret = none) :
    TotpOutcome user otp server (.error .decryption) server
  | used (unlocked : ¬ server.lockedOut env user) (enabled : server.working.TwoFactorOn user.id)
    (marked : (server.redis.lookup server.clock (.otpUsed user.id otp)).isSome) :
    TotpOutcome user otp server (.error (.auth "This code has already been used."))
      (server.failureRecorded env user)
  | invalid (unlocked : ¬ server.lockedOut env user) (enabled : server.working.TwoFactorOn user.id)
    (wrong : ∀ record secret, ¬ server.OtpValid env user otp record secret) :
    TotpOutcome user otp server (.error (.auth "Invalid verification code."))
      (server.failureRecorded env user)
  | accepted (unlocked : ¬ server.lockedOut env user) {record : TwoFactorAuth T} {secret : String}
    (valid : server.OtpValid env user otp record secret)
    (unmarked : server.redis.lookup server.clock (.otpUsed user.id otp) = none) :
    TotpOutcome user otp server (.ok ())
      ((server.otpMarked env user otp).failuresCleared env user)

omit [CommRing T] [LinearOrder T] in
theorem replayTtl_ne_zero : replayTtl env ≠ 0 := by
  simp [replayTtl, otpStepSeconds]

variable (user : User T) (server : Server T)

theorem outcome_verifyTotp (otp : String) :
    TotpOutcome env user otp server ((verifyTotp env user otp).run handle server).1
      ((verifyTotp env user otp).run handle server).2 := by
  simp only [verifyTotp, throw_bind, run_bind, run_ensureNotLocked]
  by_cases locked : (server.redis.lookup server.clock (lockoutKey env (lockId user.id) none)).isSome
  · simp only [locked, if_true]
    exact .locked locked
  simp only [locked, Bool.false_eq_true, if_false, enabledRecord, run_bind, run_view]
  cases found : server.working.twoFactorAuth.find user.id with
  | none =>
    refine .notEnabled locked ?_
    rintro ⟨record, stored, -⟩
    rw [found] at stored
    cases stored
  | some record =>
    simp only [run_ite, run_pure, run_throw]
    cases enabled : record.enabled with
    | false =>
      refine .notEnabled locked ?_
      rintro ⟨other, stored, isEnabled⟩
      rw [found] at stored
      cases stored
      rw [enabled] at isEnabled
      cases isEnabled
    | true =>
      have isOn : server.working.TwoFactorOn user.id := ⟨record, found, enabled⟩
      simp only [if_true, TwoFactorService.decrypt]
      cases decrypted : env.decrypt record.encryptedSecret with
      | none => exact .undecipherable locked found decrypted
      | some secret =>
        simp only [run_pure, run_bind, run_present, run_ite]
        -- the replay marker is read before the code is verified
        by_cases marked : (server.redis.lookup server.clock (.otpUsed user.id otp)).isSome
        · simp only [marked, if_true, run_recordFailure, run_throw]
          exact .used locked isOn marked
        simp only [marked, Bool.false_eq_true, if_false, run_now]
        cases verified :
          env.totpVerify secret otp env.settings.totpValidWindow server.clock with
        | false =>
          simp only [Bool.not_false, if_true, run_recordFailure, run_throw]
          refine .invalid locked isOn ?_
          intro other otherSecret valid
          have sameRecord := valid.found
          rw [found] at sameRecord
          cases sameRecord
          have sameSecret := valid.decrypted
          rw [decrypted] at sameSecret
          cases sameSecret
          have accepted := valid.verified
          rw [verified] at accepted
          cases accepted
        | true =>
          simp only [Bool.not_true, Bool.false_eq_true, if_false,
            run_setKey_of_pos _ _ _ (replayTtl_ne_zero env), run_clearFailures]
          exact .accepted locked ⟨found, enabled, decrypted, verified⟩
            (Option.not_isSome_iff_eq_none.mp marked)

/-! ## Recovery codes -/

inductive RecoveryOutcome (code : String) : Except AppError Unit → Server T → Prop
  | locked (locked : server.lockedOut env user) :
    RecoveryOutcome code (.error .accountLocked) server
  | invalid (unlocked : ¬ server.lockedOut env user)
    (unmatched : server.working.matching env user.id (env.upper (Text.strip code)) = none) :
    RecoveryOutcome code (.error (.auth "Invalid recovery code."))
      (server.failureRecorded env user)
  | accepted (unlocked : ¬ server.lockedOut env user) {row : BackupCode T}
    (matches' : server.working.matching env user.id (env.upper (Text.strip code)) = some row) :
    RecoveryOutcome code (.ok ())
      (({ server with working := server.working.codeUsed row.id server.clock } :
        Server T).failuresCleared env user)

theorem run_consumeFirst (normalized : String) (candidates : List (BackupCode T))
    (stored : ∀ code ∈ candidates, (server.working.backupCodes.find code.id).isSome) :
    (consumeFirst env normalized candidates).run handle server =
      match candidates.find? fun code => env.verifyPassword normalized code.hashedCode with
      | none => (.ok false, server)
      | some row =>
        (.ok true, { server with working := server.working.codeUsed row.id server.clock }) := by
  induction candidates with
  | nil => rfl
  | cons candidate candidates inductionHypothesis =>
    unfold consumeFirst
    cases accepted : env.verifyPassword normalized candidate.hashedCode with
    | false =>
      have rest := inductionHypothesis fun code member => stored code (List.mem_cons_of_mem _ member)
      simpa [accepted] using rest
    | true =>
      obtain ⟨row, found⟩ := Option.isSome_iff_exists.mp (stored candidate List.mem_cons_self)
      simp only [if_true, run_bind, run_now, run_write, Database.updateBackupCode, found, run_pure,
        List.find?_cons, accepted, Database.codeUsed]

theorem outcome_consumeRecoveryCode (code : String) :
    RecoveryOutcome env user server code ((consumeRecoveryCode env user code).run handle server).1
      ((consumeRecoveryCode env user code).run handle server).2 := by
  have stored : ∀ row ∈ server.working.listUnused user.id,
      (server.working.backupCodes.find row.id).isSome := by
    intro row member
    rw [Table.find_of_mem (List.mem_of_mem_filter member)]
    rfl
  simp only [consumeRecoveryCode, run_bind, run_ensureNotLocked]
  by_cases locked : (server.redis.lookup server.clock (lockoutKey env (lockId user.id) none)).isSome
  · simp only [locked, if_true]
    exact .locked locked
  simp only [locked, Bool.false_eq_true, if_false, run_view, run_consumeFirst env server _ _ stored]
  cases matched : server.working.matching env user.id (env.upper (Text.strip code)) with
  | none =>
    unfold Database.matching at matched
    simp only [matched, Bool.false_eq_true, if_false, run_bind, run_recordFailure, run_throw]
    exact .invalid locked matched
  | some row =>
    unfold Database.matching at matched
    simp only [matched, if_true, run_clearFailures]
    exact .accepted locked matched

end

end EnterpriseAuth
