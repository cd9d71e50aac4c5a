import EnterpriseAuth.Effects.Transition
import EnterpriseAuth.Requests.TwoFactor
import EnterpriseAuth.Guarantees.Scenario

/-!
# Lockout of the second factor

`verify_totp` and `consume_recovery_code` share one counter and one lock for a user.  The failures
that fill a window are counted against `MAX_FAILED_LOGINS`, whatever `TWO_FA_MAX_FAILURES` says, so
the second factor obeys its own setting exactly where the two settings agree.
-/

namespace EnterpriseAuth

open Effects Program RateLimiter TwoFactorService FailureWindow

variable {T : Type}

/-! ## One attempt -/

inductive SecondFactorAttempt where
  | totp (otp : String)
  | recoveryCode (code : String)

def SecondFactorAttempt.program [CommRing T] [LinearOrder T] (env : Environment T) (user : User T) :
    SecondFactorAttempt → App T Unit
  | .totp otp => verifyTotp env user otp
  | .recoveryCode code => consumeRecoveryCode env user code

/-- What a reply says about the code: both functions answer a wrong one with an `AuthError`. -/
def codeVerdict : Except AppError Unit → Verdict
  | .ok () => .succeeded
  | .error error =>
    match error.kind with
    | .accountLocked => .refused
    | .auth => .failed
    | _ => .undecided

section
variable [CommRing T] [LinearOrder T] {env : Environment T} {user : User T}

variable (env user) in
/-- The attempt with its reply and the server it leaves. -/
def Server.tryCode (server : Server T) (attempt : SecondFactorAttempt) :
    Except AppError Unit × Server T :=
  (attempt.program env user).run handle server

variable (env user) in
/-- An attempt concerns the two keys of the user as its verdict says; besides, an accepted code is
marked as used. -/
theorem attempted_tryCode (server : Server T) (attempt : SecondFactorAttempt) :
    (server.tryCode env user attempt).2.clock = server.clock ∧
    ∃ marked : RedisStore T,
      marked (lockoutKey env (lockId user.id) none) =
        server.redis (lockoutKey env (lockId user.id) none) ∧
      marked (failcountKey env (lockId user.id) none) =
        server.redis (failcountKey env (lockId user.id) none) ∧
      Attempted env (lockId user.id) none { server with redis := marked }
        (codeVerdict (server.tryCode env user attempt).1) (server.tryCode env user attempt).2.redis := by
  cases attempt with
  | totp otp =>
    have outcome := outcome_verifyTotp env user server otp
    unfold Server.tryCode SecondFactorAttempt.program
    generalize (verifyTotp env user otp).run handle server = result at outcome ⊢
    obtain ⟨reply, final⟩ := result
    cases outcome with
    | locked locked => exact ⟨rfl, _, rfl, rfl, .refused locked⟩
    | notEnabled unlocked => exact ⟨rfl, _, rfl, rfl, .undecided unlocked⟩
    | undecipherable unlocked => exact ⟨rfl, _, rfl, rfl, .undecided unlocked⟩
    | used unlocked => exact ⟨rfl, server.redis, rfl, rfl, .failed unlocked⟩
    | invalid unlocked => exact ⟨rfl, server.redis, rfl, rfl, .failed unlocked⟩
    -- the replay marker is written before the counters are cleared
    | accepted unlocked =>
      have lock : (server.otpMarked env user otp).redis (lockoutKey env (lockId user.id) none) =
          server.redis (lockoutKey env (lockId user.id) none) := by
        simp [Server.otpMarked, ExpiringStore.put, lockoutKey]
      refine ⟨rfl, _, lock, ?_, .succeeded ?_⟩
      · simp [Server.otpMarked, ExpiringStore.put, failcountKey]
      · rwa [Server.Locked, ExpiringStore.lookup, lock, ← ExpiringStore.lookup]
  | recoveryCode code =>
    have outcome := outcome_consumeRecoveryCode env user server code
    unfold Server.tryCode SecondFactorAttempt.program
    generalize (consumeRecoveryCode env user code).run handle server = result at outcome ⊢
    obtain ⟨reply, final⟩ := result
    cases outcome with
    | locked locked => exact ⟨rfl, _, rfl, rfl, .refused locked⟩
    | invalid unlocked => exact ⟨rfl, server.redis, rfl, rfl, .failed unlocked⟩
    | accepted unlocked => exact ⟨rfl, server.redis, rfl, rfl, .succeeded unlocked⟩

theorem tryCode_refused_iff (server : Server T) (attempt : SecondFactorAttempt) :
    (server.tryCode env user attempt).1 = .error .accountLocked ↔ server.lockedOut env user := by
  cases attempt with
  | totp otp =>
    have outcome := outcome_verifyTotp env user server otp
    unfold Server.tryCode SecondFactorAttempt.program
    generalize (verifyTotp env user otp).run handle server = result at outcome ⊢
    obtain ⟨reply, final⟩ := result
    cases outcome with
    | locked locked => exact iff_of_true rfl locked
    | notEnabled unlocked | undecipherable unlocked | used unlocked | invalid unlocked
    | accepted unlocked =>
      exact iff_of_false (by simp [AppError.accountLocked, AppError.conflict, AppError.auth,
        AppError.decryption]) unlocked
  | recoveryCode code =>
    have outcome := outcome_consumeRecoveryCode env user server code
    unfold Server.tryCode SecondFactorAttempt.program
    generalize (consumeRecoveryCode env user code).run handle server = result at outcome ⊢
    obtain ⟨reply, final⟩ := result
    cases outcome with
    | locked locked => exact iff_of_true rfl locked
    | invalid unlocked | accepted unlocked =>
      exact iff_of_false (by simp [AppError.accountLocked, AppError.auth]) unlocked

end

/-! ## Runs of attempts -/

structure SecondFactorRun (T : Type) where
  server : Server T
  /-- the attempts so far, the latest first -/
  log : List (Attempt T)

inductive SecondFactorEvent (T : Type) where
  | tick (instant : T)
  | attempt (attempt : SecondFactorAttempt)
  /-- whatever else happens between two attempts -/
  | elsewhere

section
variable [CommRing T] [LinearOrder T] (env : Environment T) (user : User T)

def SecondFactorRun.attempted (run : SecondFactorRun T) (attempt : SecondFactorAttempt) :
    SecondFactorRun T where
  server := (run.server.tryCode env user attempt).2
  log := ⟨run.server.clock, codeVerdict (run.server.tryCode env user attempt).1⟩ :: run.log

inductive SecondFactorRun.Step :
    SecondFactorRun T → SecondFactorEvent T → SecondFactorRun T → Prop
  | tick {run : SecondFactorRun T} {instant : T} (later : run.server.clock ≤ instant) :
    Step run (.tick instant) { run with server := { run.server with clock := instant } }
  | attempt {run : SecondFactorRun T} (attempt : SecondFactorAttempt) :
    Step run (.attempt attempt) (run.attempted env user attempt)
  | elsewhere {run : SecondFactorRun T} {server : Server T} (clock : server.clock = run.server.clock)
    (lock : server.redis (lockoutKey env (lockId user.id) none) =
      run.server.redis (lockoutKey env (lockId user.id) none))
    (count : server.redis (failcountKey env (lockId user.id) none) =
      run.server.redis (failcountKey env (lockId user.id) none)) :
    Step run .elsewhere { run with server }

/-- The attempts for one user, from where neither key exists. -/
def secondFactorRuns : System (SecondFactorRun T) (SecondFactorEvent T) where
  start run := run.log = [] ∧ run.server.redis (lockoutKey env (lockId user.id) none) = none ∧
    run.server.redis (failcountKey env (lockId user.id) none) = none
  step := SecondFactorRun.Step env user

/-- The next attempt of either kind is refused exactly while `limit` failures fill the latest window
and the last of them is recent. -/
def SecondFactorRun.Enforces (limit : ℕ) (run : SecondFactorRun T) : Prop :=
  ∀ attempt, (run.server.tryCode env user attempt).1 = .error .accountLocked ↔
    isLocked limit (lockout env) (counted limit (lockout env) run.log) run.server.clock

/-- Wrong recovery codes one after the other, at one instant. -/
def wrongCodes : ℕ → SecondFactorRun T
  | 0 =>
    { server := { committed := {}, working := {}, redis := ∅, clock := 0, draws := 0, tasks := [] }
      log := [] }
  | count + 1 => (wrongCodes count).attempted env user (.recoveryCode "wrong-code")

end

section
variable [CommRing T] [LinearOrder T] {env : Environment T} {user : User T}

theorem SecondFactorRun.mirrors_step {before after : SecondFactorRun T} {event : SecondFactorEvent T}
    (mirrors : Mirrors env (lockId user.id) none before.log before.server.clock before.server.redis)
    (positive : 0 < env.settings.maxFailedLogins)
    (step : SecondFactorRun.Step env user before event after) :
    Mirrors env (lockId user.id) none after.log after.server.clock after.server.redis := by
  cases step with
  | tick later => exact mirrors.later later rfl rfl
  | attempt attempt =>
    obtain ⟨clock, marked, lock, count, attempted⟩ :=
      attempted_tryCode env user before.server attempt
    have same : Mirrors env (lockId user.id) none before.log before.server.clock marked :=
      mirrors.later le_rfl lock count
    have kept := Mirrors.attempt same attempted positive
    simpa only [SecondFactorRun.attempted, clock] using kept
  | elsewhere clock lock count => exact mirrors.later clock.ge lock count

theorem mirrors_of_secondFactorRun {run : SecondFactorRun T}
    (positive : 0 < env.settings.maxFailedLogins)
    (reachable : (secondFactorRuns env user).Reachable run) :
    Mirrors env (lockId user.id) none run.log run.server.clock run.server.redis := by
  refine System.Reachable.invariant
    (fun run : SecondFactorRun T =>
      Mirrors env (lockId user.id) none run.log run.server.clock run.server.redis) reachable ?_ ?_
  · rintro first ⟨empty, noLock, noCount⟩
    rw [empty]
    exact .start _ noLock noCount
  · exact fun _ _ _ _ mirrors step => SecondFactorRun.mirrors_step mirrors positive step

/-- What the code enforces is the setting of the password logins. -/
theorem enforces_maxFailedLogins {run : SecondFactorRun T}
    (positive : 0 < env.settings.maxFailedLogins)
    (reachable : (secondFactorRuns env user).Reachable run) :
    run.Enforces env user env.settings.maxFailedLogins := by
  intro attempt
  have mirrors := mirrors_of_secondFactorRun positive reachable
  rw [tryCode_refused_iff]
  exact mirrors.locked_iff positive

/-! ## The two settings -/

theorem reachable_wrongCodes (count : ℕ) :
    (secondFactorRuns env user).Reachable (wrongCodes env user count) := by
  induction count with
  | zero => exact .start ⟨rfl, rfl, rfl⟩
  | succ count inductionHypothesis => exact inductionHypothesis.step (.attempt _)

/-- Until the lock is set, every wrong code is counted. -/
theorem wrongCodes_log [IsStrictOrderedRing T] (user : User T) {count : ℕ}
    (positive : 0 < env.settings.maxFailedLogins) (few : count ≤ env.settings.maxFailedLogins) :
    (wrongCodes env user count).log = List.replicate count ⟨0, .failed⟩ ∧
      (wrongCodes env user count).server.clock = 0 ∧
      (wrongCodes env user count).server.working = {} := by
  have later (instant : T) : instant < instant + lockout env :=
    lt_add_of_pos_right instant (by exact_mod_cast env.settings.lockoutSeconds.pos)
  induction count with
  | zero => exact ⟨rfl, rfl, rfl⟩
  | succ count inductionHypothesis =>
    obtain ⟨log, clock, working⟩ := inductionHypothesis (by omega)
    have unlocked : ¬ (wrongCodes env user count).server.lockedOut env user := by
      rw [← tryCode_refused_iff _ (.recoveryCode "wrong-code"),
        enforces_maxFailedLogins positive (reachable_wrongCodes count), log, clock,
        counted_replicate (by omega) later, isLocked_replicate positive later]
      omega
    have outcome := outcome_consumeRecoveryCode env user (wrongCodes env user count).server "wrong-code"
    simp only [wrongCodes, SecondFactorRun.attempted, Server.tryCode, SecondFactorAttempt.program]
    generalize (consumeRecoveryCode env user "wrong-code").run handle
      (wrongCodes env user count).server = result at outcome ⊢
    obtain ⟨reply, final⟩ := result
    cases outcome with
    | locked locked => exact absurd locked unlocked
    | invalid =>
      rw [log, List.replicate_succ, clock]
      exact ⟨rfl, rfl, working⟩
    | accepted _ matched =>
      obtain ⟨stored, -⟩ := Database.matching_some env matched
      rw [working] at stored
      cases stored

/-- The second factor is locked by its own setting if and only if that is the setting of the
password logins. -/
theorem second_factor_lockout_iff [IsStrictOrderedRing T]
    (positive : 0 < env.settings.twoFaMaxFailures) (alsoPositive : 0 < env.settings.maxFailedLogins) :
    (∀ run, (secondFactorRuns env user).Reachable run →
      run.Enforces env user env.settings.twoFaMaxFailures) ↔
    env.settings.twoFaMaxFailures = env.settings.maxFailedLogins := by
  constructor
  · intro enforced
    have later (instant : T) : instant < instant + lockout env :=
      lt_add_of_pos_right instant (by exact_mod_cast env.settings.lockoutSeconds.pos)
    -- as many wrong codes as the smaller setting admits
    let count := min env.settings.twoFaMaxFailures env.settings.maxFailedLogins
    have reachable : (secondFactorRuns env user).Reachable (wrongCodes env user count) :=
      reachable_wrongCodes count
    obtain ⟨log, clock, -⟩ := wrongCodes_log user alsoPositive (Nat.min_le_right _ _)
    have own := enforced _ reachable (.recoveryCode "wrong-code")
    have actual := enforces_maxFailedLogins alsoPositive reachable (.recoveryCode "wrong-code")
    rw [log, clock, counted_replicate (Nat.min_le_left _ _) later,
      isLocked_replicate positive later] at own
    rw [log, clock, counted_replicate (Nat.min_le_right _ _) later,
      isLocked_replicate alsoPositive later] at actual
    have both := own.symm.trans actual
    omega
  · intro same run reachable
    rw [same]
    exact enforces_maxFailedLogins alsoPositive reachable

end

/-- The row of Alice. -/
def aliceRow : User ℚ where
  id := 1
  email := "alice@example.org"
  hashedPassword := "$Str0ng!pass"
  createdAt := 0

/-- By default the two settings agree. -/
theorem second_factor_lockout_of_alice : (wrongCodes demo aliceRow 5).Enforces demo aliceRow 5 :=
  (second_factor_lockout_iff (by decide) (by decide)).mpr rfl _ (reachable_wrongCodes 5)

/-- The small deployment with a stricter setting for the second factor. -/
def demoStrict : Environment ℚ :=
  { demo with settings := { demo.settings with twoFaMaxFailures := 3 } }

/-- After three wrong codes the fourth is still looked at. -/
theorem fourth_code_not_refused :
    ¬ ∀ run, (secondFactorRuns demoStrict aliceRow).Reachable run →
      run.Enforces demoStrict aliceRow demoStrict.settings.twoFaMaxFailures := by
  intro enforced
  have refused := (enforced _ (reachable_wrongCodes 3) (.recoveryCode "wrong-code")).mpr
    (by decide +kernel)
  have answered : codeVerdict ((wrongCodes demoStrict aliceRow 3).server.tryCode demoStrict aliceRow
      (.recoveryCode "wrong-code")).1 = .failed := by decide +kernel
  rw [refused] at answered
  cases answered

end EnterpriseAuth
