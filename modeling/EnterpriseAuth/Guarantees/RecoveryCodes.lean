import EnterpriseAuth.Guarantees.OneTimeCodes
import EnterpriseAuth.Requests.RecoveryCodes

/-!
# Recovery codes

A history of generations, consumptions and disablings says which codes of a user are live: those of
the latest set that has been generated, less the ones consumed since, and none once the second factor
has been disabled.  The unused rows of the user stand for exactly these.
-/

namespace EnterpriseAuth

open Effects Program TwoFactorService

variable {T : Type}

/-! ## Operations and histories -/

inductive CodeOperation where
  | generate (replace : Bool)
  | consume (code : String)
  | disable (password otp : String)

/-- The operation with the codes that it returns. -/
def CodeOperation.program [CommRing T] [LinearOrder T] (env : Environment T) (user : User T) :
    CodeOperation → App T (List String)
  | .generate replace => generateRecoveryCodes env user replace
  | .consume code => (fun _ => []) <$> consumeRecoveryCode env user code
  | .disable password otp => (fun _ => []) <$> TwoFactorService.disable env user password otp

structure CodeEntry where
  userId : Uuid
  operation : CodeOperation
  reply : Except AppError (List String)

variable (env : Environment T)

/-- What a submitted code is compared as. -/
def normalizedCode (code : String) : String := env.upper (Text.strip code)

/-- The codes of the user after the entries, the latest first. -/
def liveCodes (userId : Uuid) : List CodeEntry → List String
  | [] => []
  | entry :: earlier =>
    if entry.userId = userId then
      match entry.operation, entry.reply with
      | .generate _, .ok codes => codes
      | .consume code, .ok _ => (liveCodes userId earlier).filter (· ≠ normalizedCode env code)
      | .disable .., .ok _ => []
      | _, .error _ => liveCodes userId earlier
    else liveCodes userId earlier

/-! ## Runs -/

structure CodeRun (T : Type) where
  server : Server T
  /-- the operations so far, the latest first -/
  log : List CodeEntry

inductive CodeEvent (T : Type) where
  | operate (user : User T) (operation : CodeOperation)
  /-- whatever else happens between two operations, and the passing of time -/
  | elsewhere

section
variable [CommRing T] [LinearOrder T]

/-- The operation in a transaction of its own. -/
def Server.operate (server : Server T) (user : User T) (operation : CodeOperation) :
    Except AppError (List String) × Server T :=
  (getDb (operation.program env user)).run handle { server with working := server.committed }

def CodeRun.operated (run : CodeRun T) (user : User T) (operation : CodeOperation) : CodeRun T where
  server := (run.server.operate env user operation).2
  log := ⟨user.id, operation, (run.server.operate env user operation).1⟩ :: run.log

inductive CodeRun.Step : CodeRun T → CodeEvent T → CodeRun T → Prop
  | operate {run : CodeRun T} (user : User T) (operation : CodeOperation) :
    Step run (.operate user operation) (run.operated env user operation)
  | elsewhere {run : CodeRun T} {server : Server T}
    (codes : server.committed.backupCodes = run.server.committed.backupCodes) :
    Step run .elsewhere { run with server }

/-- Operations for any users, from where nobody has an unused code. -/
def codeRuns : System (CodeRun T) (CodeEvent T) where
  start run := run.log = [] ∧ ∀ userId, run.server.committed.listUnused userId = []
  step := CodeRun.Step env

/-- The codes that one operation generates are distinct. -/
def GeneratesDistinct (run : CodeRun T) : CodeEvent T → Prop
  | .operate user (.generate replace) => ∀ codes,
      (run.server.operate env user (.generate replace)).1 = .ok codes → codes.Nodup
  | _ => True

/-! ## What the codes are good for -/

/-- What the next operation does, whoever it is for. -/
structure CodesSound (run : CodeRun T) : Prop where
  accepts : ∀ user code, (run.server.operate env user (.consume code)).1.isOk ↔
    ¬ run.server.lockedOut env user ∧ normalizedCode env code ∈ liveCodes env user.id run.log
  /-- a consumption uses up one row of the user, and changes nothing else in the database -/
  usesUp : ∀ user code, (run.server.operate env user (.consume code)).1.isOk →
    ∃ row ∈ run.server.committed.listUnused user.id, row.StandsFor env (normalizedCode env code) ∧
      (run.server.operate env user (.consume code)).2.committed =
        run.server.committed.codeUsed row.id run.server.clock
  refuses : ∀ user replace, (run.server.operate env user (.generate replace)).1 = .error codesExist ↔
    replace = false ∧ run.server.committed.countUnused user.id ≠ 0
  generates : ∀ user replace codes,
    (run.server.operate env user (.generate replace)).1 = .ok codes →
      codes.length = env.settings.backupCodeCount ∧
      (run.server.operate env user (.generate replace)).2.committed.UnusedAre env user.id codes

variable {env}

/-! ## One operation -/

instance (user : User T) (operation : CodeOperation) :
    Within .sessions (operation.program env user) := by
  cases operation <;> (unfold CodeOperation.program; infer_instance)

/-- What an operation that raises has written is rolled back. -/
theorem committed_of_failed {server : Server T} {user : User T} {operation : CodeOperation}
    {error : AppError} (failed : (server.operate env user operation).1 = .error error) :
    (server.operate env user operation).2.committed = server.committed := by
  have aside := Within.aside .sessions (operation.program env user)
    { server with working := server.committed }
  rw [Server.operate, run_getDb] at failed ⊢
  cases ran : (operation.program env user).run handle { server with working := server.committed } with
  | mk reply final =>
    rw [ran] at aside failed
    cases reply with
    | ok codes => cases failed
    | error => exact aside.committed

/-- What an operation that returns has written is committed. -/
theorem committed_of_ok {server : Server T} {user : User T} {operation : CodeOperation}
    {codes : List String} (returned : (server.operate env user operation).1 = .ok codes) :
    ∃ final, (operation.program env user).run handle { server with working := server.committed } =
      (.ok codes, final) ∧ (server.operate env user operation).2.committed = final.working := by
  rw [Server.operate, run_getDb] at returned ⊢
  cases ran : (operation.program env user).run handle { server with working := server.committed } with
  | mk reply final =>
    rw [ran] at returned
    cases reply with
    | ok => cases returned; exact ⟨final, rfl, rfl⟩
    | error => cases returned

/-- The ways through a consumption. -/
inductive Consumption (env : Environment T) (server : Server T) (user : User T) (code : String) :
    Except AppError (List String) × Server T → Prop
  | locked {left : Server T} {error : AppError} (locked : server.lockedOut env user)
    (unchanged : left.committed = server.committed) : Consumption env server user code (.error error, left)
  | unmatched {left : Server T} {error : AppError} (unlocked : ¬ server.lockedOut env user)
    (unmatched : server.committed.matching env user.id (normalizedCode env code) = none)
    (unchanged : left.committed = server.committed) : Consumption env server user code (.error error, left)
  | accepted {left : Server T} (unlocked : ¬ server.lockedOut env user) {row : BackupCode T}
    (matched : server.committed.matching env user.id (normalizedCode env code) = some row)
    (used : left.committed = server.committed.codeUsed row.id server.clock) :
    Consumption env server user code (.ok [], left)

theorem consumption (server : Server T) (user : User T) (code : String) :
    Consumption env server user code (server.operate env user (.consume code)) := by
  have outcome := outcome_consumeRecoveryCode env user { server with working := server.committed } code
  rw [Server.operate, run_getDb]
  simp only [CodeOperation.program, run_map]
  generalize (consumeRecoveryCode env user code).run handle
    { server with working := server.committed } = result at outcome ⊢
  obtain ⟨reply, final⟩ := result
  cases outcome with
  | locked locked => exact .locked locked rfl
  | invalid unlocked unmatched => exact .unmatched unlocked unmatched rfl
  | accepted unlocked matched => exact .accepted unlocked matched rfl

theorem consumed_of_ok {server : Server T} {user : User T} {code : String} {codes : List String}
    (returned : (server.operate env user (.consume code)).1 = .ok codes) :
    ¬ server.lockedOut env user ∧ ∃ row,
      server.committed.matching env user.id (normalizedCode env code) = some row ∧
      (server.operate env user (.consume code)).2.committed =
        server.committed.codeUsed row.id server.clock := by
  have ways : Consumption env server user code _ := consumption server user code
  generalize server.operate env user (.consume code) = result at returned ways
  cases ways with
  | locked | unmatched => cases returned
  | accepted unlocked matched used => exact ⟨unlocked, _, matched, used⟩

omit [CommRing T] [LinearOrder T] in
/-- The row of one user that is used up is no row of another. -/
theorem listUnused_codeUsed_other {db : Database T} {row : BackupCode T}
    (stored : db.backupCodes.find row.id = some row) {userId : Uuid} (other : row.userId ≠ userId)
    (now : T) : (db.codeUsed row.id now).listUnused userId = db.listUnused userId := by
  rw [listUnused_codeUsed]
  refine List.filter_eq_self.mpr fun candidate member => decide_eq_true fun same => other ?_
  obtain ⟨isStored, unused⟩ := List.mem_filter.mp member
  have found := Table.find_of_mem isStored
  rw [same, stored] at found
  cases found
  simp only [Bool.and_eq_true, decide_eq_true_eq] at unused
  exact unused.1

/-! ## The unused rows are for the live codes -/

structure CodesTracked (env : Environment T) (run : CodeRun T) : Prop where
  agree : ∀ userId, run.server.committed.UnusedAre env userId (liveCodes env userId run.log)
  distinct : ∀ userId, (liveCodes env userId run.log).Nodup

/-- An operation concerns one user: for the others the live codes and the unused rows stay. -/
theorem CodesTracked.of_user {run : CodeRun T} (tracked : CodesTracked env run) {user : User T}
    {operation : CodeOperation} {codes : List String}
    (others : ∀ userId, userId ≠ user.id →
      (run.operated env user operation).server.committed.listUnused userId =
        run.server.committed.listUnused userId)
    (live : liveCodes env user.id (run.operated env user operation).log = codes)
    (agree : (run.operated env user operation).server.committed.UnusedAre env user.id codes)
    (distinct : codes.Nodup) : CodesTracked env (run.operated env user operation) := by
  have sameLive (userId : Uuid) (other : userId ≠ user.id) :
      liveCodes env userId (run.operated env user operation).log = liveCodes env userId run.log := by
    simp [CodeRun.operated, liveCodes, other.symm]
  constructor <;> intro userId <;> by_cases own : userId = user.id
  · rwa [own, live]
  · rw [Database.UnusedAre, others userId own, sameLive userId own]
    exact tracked.agree userId
  · rwa [own, live]
  · rw [sameLive userId own]
    exact tracked.distinct userId

theorem CodesTracked.operated {run : CodeRun T} (faithful : env.HashesFaithfully)
    (tracked : CodesTracked env run) (user : User T) (operation : CodeOperation)
    (distinct : GeneratesDistinct env run (.operate user operation)) :
    CodesTracked env (run.operated env user operation) := by
  cases replied : (run.server.operate env user operation).1 with
  | error error =>
    have same := committed_of_failed replied
    refine tracked.of_user (fun userId _ => ?_) ?_ ?_ (tracked.distinct user.id)
    · rw [CodeRun.operated, same]
    · cases operation <;> simp [CodeRun.operated, liveCodes, replied]
    · rw [CodeRun.operated, same]
      exact tracked.agree user.id
  | ok codes =>
    cases operation with
    | generate replace =>
      obtain ⟨final, ran, committed⟩ := committed_of_ok replied
      have generated := (triple_generateRecoveryCodes user replace).returned (fun _ => rfl) ran
      refine tracked.of_user (fun userId other => ?_) ?_ ?_ (distinct codes replied)
      · rw [CodeRun.operated, committed, generated.2.others userId other]
      · simp [CodeRun.operated, liveCodes, replied]
      · rw [CodeRun.operated, committed]
        exact generated.2.agree
    -- the code that was spent leaves both lists
    | consume code =>
      obtain ⟨-, row, matched, used⟩ := consumed_of_ok replied
      obtain ⟨stored, owner, -⟩ := Database.matching_some env matched
      refine tracked.of_user (fun userId other => ?_) ?_ ?_
        ((tracked.distinct user.id).filter fun other => other ≠ normalizedCode env code)
      · rw [CodeRun.operated, used,
          listUnused_codeUsed_other stored (fun same => other (same.symm.trans owner))]
      · simp [CodeRun.operated, liveCodes, replied]
      · rw [CodeRun.operated, used, Database.UnusedAre, listUnused_codeUsed]
        exact forall₂_used faithful (tracked.agree user.id) (nodup_listUnused _ _)
          (tracked.distinct user.id) matched
    | disable password otp =>
      obtain ⟨final, ran, committed⟩ := committed_of_ok replied
      obtain ⟨_, disabled, -⟩ := run_map_ok ran
      have cleared := (triple_disable user password otp).returned (fun _ => rfl) disabled
      refine tracked.of_user (fun userId other => ?_) ?_ ?_ List.nodup_nil
      · rw [CodeRun.operated, committed]
        exact (cleared userId).trans (if_neg other)
      · simp [CodeRun.operated, liveCodes, replied]
      · have none : final.working.listUnused user.id = [] :=
          (cleared user.id).trans (if_pos rfl)
        rw [CodeRun.operated, committed, Database.UnusedAre, none]
        exact .nil

theorem codesTracked_of_reachable (faithful : env.HashesFaithfully) {run : CodeRun T}
    (reachable : ((codeRuns env).guarded (GeneratesDistinct env)).Reachable run) :
    CodesTracked env run := by
  refine System.Reachable.invariant (CodesTracked env) reachable ?_ ?_
  · rintro first ⟨empty, none⟩
    constructor <;> intro userId
    · rw [Database.UnusedAre, none userId, empty]
      exact .nil
    · rw [empty]
      exact List.nodup_nil
  · rintro before event after - tracked ⟨distinct, step⟩
    cases step with
    | operate user operation => exact tracked.operated faithful user operation distinct
    | elsewhere codes =>
      refine ⟨fun userId => ?_, tracked.distinct⟩
      rw [Database.UnusedAre, Database.listUnused, codes]
      exact tracked.agree userId

/-! ## The next operation -/

theorem accepted_iff_live {run : CodeRun T} (faithful : env.HashesFaithfully)
    (tracked : CodesTracked env run) (user : User T) (code : String) :
    (run.server.operate env user (.consume code)).1.isOk ↔
      ¬ run.server.lockedOut env user ∧ normalizedCode env code ∈ liveCodes env user.id run.log := by
  have isLive := find_isSome_iff faithful (tracked.agree user.id) (normalizedCode env code)
  have ways : Consumption env run.server user code _ := consumption run.server user code
  generalize run.server.operate env user (.consume code) = result at ways ⊢
  cases ways with
  | locked locked => exact iff_of_false Bool.false_ne_true fun accepted => accepted.1 locked
  | unmatched _ unmatched =>
    refine iff_of_false Bool.false_ne_true fun accepted => ?_
    have found := isLive.mpr accepted.2
    rw [Database.matching] at unmatched
    rw [unmatched] at found
    cases found
  | accepted unlocked matched =>
    refine iff_of_true rfl ⟨unlocked, isLive.mp ?_⟩
    rw [Database.matching] at matched
    rw [matched]
    rfl

theorem consumption_usesUp {run : CodeRun T} (faithful : env.HashesFaithfully)
    (tracked : CodesTracked env run) {user : User T} {code : String}
    (accepted : (run.server.operate env user (.consume code)).1.isOk) :
    ∃ row ∈ run.server.committed.listUnused user.id, row.StandsFor env (normalizedCode env code) ∧
      (run.server.operate env user (.consume code)).2.committed =
        run.server.committed.codeUsed row.id run.server.clock := by
  obtain ⟨codes, returned⟩ := exists_ok accepted
  obtain ⟨-, row, matched, used⟩ := consumed_of_ok returned
  exact ⟨row, List.mem_of_find?_eq_some matched,
    standsFor_of_find faithful (tracked.agree user.id) matched, used⟩

theorem generation_refused_iff (server : Server T) (user : User T) (replace : Bool) :
    (server.operate env user (.generate replace)).1 = .error codesExist ↔
      replace = false ∧ server.committed.countUnused user.id ≠ 0 := by
  have triple : Triple handle (Server.Unused server.committed.listUnused)
      (generateRecoveryCodes env user replace) _ _ := triple_generateRecoveryCodes user replace
  have generation := triple.outcome { server with working := server.committed } fun _ => rfl
  rw [Server.operate, run_getDb]
  simp only [CodeOperation.program]
  split at generation
  next codes final ran =>
    rw [ran]
    refine iff_of_false (by simp) fun refused => refused.2 ?_
    exact List.length_eq_zero_iff.mpr (generation.1 refused.1)
  next error final ran =>
    rw [ran, Except.error.injEq, generation, Database.countUnused, Ne, Ne, List.length_eq_zero_iff]

theorem generation_returns {server : Server T} {user : User T} {replace : Bool} {codes : List String}
    (generated : (server.operate env user (.generate replace)).1 = .ok codes) :
    codes.length = env.settings.backupCodeCount ∧
      (server.operate env user (.generate replace)).2.committed.UnusedAre env user.id codes := by
  obtain ⟨final, ran, committed⟩ := committed_of_ok generated
  have generation := (triple_generateRecoveryCodes user replace).returned (fun _ => rfl) ran
  rw [committed]
  exact ⟨generation.2.length, generation.2.agree⟩

/-- Where `str.upper` leaves capital letters, digits and hyphens alone, a generated code is compared as
it was returned. -/
theorem generated_code_normal
    (capitals : ∀ text : String, InCodeFormat text.toList → env.upper text = text) {server : Server T}
    {user : User T} {replace : Bool} {codes : List String}
    (generated : (server.operate env user (.generate replace)).1 = .ok codes) {code : String}
    (member : code ∈ codes) : normalizedCode env code = code := by
  obtain ⟨final, ran, -⟩ := committed_of_ok generated
  have generation := (triple_generateRecoveryCodes user replace).returned (fun _ => rfl) ran
  have format := generation.2.format code member
  have visible : ∀ character ∈ '-' :: codeAlphabet, Text.isSpace character = false := by
    have printable : ('-' :: codeAlphabet).all (fun character => !Text.isSpace character) := by rfl
    simpa only [List.all_eq_true, Bool.not_eq_true'] using printable
  rw [normalizedCode, Text.strip_eq_self fun character isLetter => visible _ (format _ isLetter),
    capitals code format]

/-- In every run a submitted code is accepted if and only if it is live, and generation returns the
codes that are unused afterwards. -/
theorem recovery_codes_sound (faithful : env.HashesFaithfully) {run : CodeRun T}
    (reachable : ((codeRuns env).guarded (GeneratesDistinct env)).Reachable run) :
    CodesSound env run where
  accepts := accepted_iff_live faithful (codesTracked_of_reachable faithful reachable)
  usesUp _ _ := consumption_usesUp faithful (codesTracked_of_reachable faithful reachable)
  refuses := generation_refused_iff run.server
  generates _ _ _ := generation_returns

end

/-! ## Alice's codes -/

theorem mod_lt_letters (draw : ℕ) : draw % 31 < 32 := by omega

/-- `demo` with a generator whose codes differ. -/
def demoDistinctCodes : Environment ℚ :=
  { demo with secretsChoice := fun draw => ⟨draw % 31, mod_lt_letters draw⟩ }

theorem demoDistinctCodes_faithful : demoDistinctCodes.HashesFaithfully := by
  intro salt password other
  change (("$" ++ other) == "$" ++ password) = true ↔ password = other
  rw [beq_iff_eq, String.append_right_inj, eq_comm]

/-- Alice has enabled her second factor. -/
def aliceSetUp : CodeRun ℚ := ⟨aliceAuthorizes.server, []⟩

def aliceGenerates : CodeRun ℚ := aliceSetUp.operated demoDistinctCodes alice (.generate false)

/-- Alice disables her second factor. -/
def aliceDisables : CodeRun ℚ :=
  aliceGenerates.operated demoDistinctCodes alice (.disable "Str0ng!pass" "100000")

def aliceCodes : List String :=
  ["MNPQ-RSTU-VWXY", "Z234-5678-ABCD", "EFGH-JKLM-NPQR", "STUV-WXYZ-2345", "678A-BCDE-FGHJ",
    "KLMN-PQRS-TUVW", "XYZ2-3456-78AB", "CDEF-GHJK-LMNP", "QRST-UVWX-YZ23", "4567-8ABC-DEFG"]

theorem aliceGenerates_reachable :
    ((codeRuns demoDistinctCodes).guarded (GeneratesDistinct demoDistinctCodes)).Reachable
      aliceGenerates := by
  have generated : (aliceSetUp.server.operate demoDistinctCodes alice (.generate false)).1 =
      .ok aliceCodes := by decide +kernel
  have none : aliceSetUp.server.committed.backupCodes.rows = [] := by decide +kernel
  have starts : ((codeRuns demoDistinctCodes).guarded (GeneratesDistinct demoDistinctCodes)).start
      aliceSetUp := by
    refine ⟨rfl, fun userId => ?_⟩
    rw [Database.listUnused, none, List.filter_nil]
  have distinct : GeneratesDistinct demoDistinctCodes aliceSetUp
      (.operate alice (.generate false)) := by
    intro codes returned
    obtain rfl := Except.ok.inj (generated.symm.trans returned)
    decide
  have step : ((codeRuns demoDistinctCodes).guarded (GeneratesDistinct demoDistinctCodes)).step
      aliceSetUp (.operate alice (.generate false)) aliceGenerates := ⟨distinct, .operate _ _⟩
  exact (System.Reachable.start starts).step step

/-- What her codes are good for from then on. -/
theorem recovery_codes_sound_for_alice : CodesSound demoDistinctCodes aliceGenerates :=
  recovery_codes_sound demoDistinctCodes_faithful aliceGenerates_reachable

def CodeOperation.disables : CodeOperation → Bool
  | .disable .. => true
  | _ => false

/-- A code of the latest set is refused once the second factor has been disabled. -/
theorem disabled_codes_refused :
    ¬ ∀ run, ((codeRuns demoDistinctCodes).guarded (GeneratesDistinct demoDistinctCodes)).Reachable
        run → ∀ user code, (run.server.operate demoDistinctCodes user (.consume code)).1.isOk ↔
      ¬ run.server.lockedOut demoDistinctCodes user ∧ normalizedCode demoDistinctCodes code ∈
        liveCodes demoDistinctCodes user.id (run.log.filter (!·.operation.disables)) := by
  intro accepts
  have step : ((codeRuns demoDistinctCodes).guarded (GeneratesDistinct demoDistinctCodes)).step
      aliceGenerates (.operate alice (.disable "Str0ng!pass" "100000")) aliceDisables :=
    ⟨trivial, .operate _ _⟩
  have reachable := aliceGenerates_reachable.step step
  have refused : (aliceDisables.server.operate demoDistinctCodes alice
      (.consume "MNPQ-RSTU-VWXY")).1.isOk = false := by decide +kernel
  have unlocked : ¬ aliceDisables.server.lockedOut demoDistinctCodes alice := by
    unfold Server.lockedOut Server.Locked
    decide +kernel
  have latest : normalizedCode demoDistinctCodes "MNPQ-RSTU-VWXY" ∈ liveCodes demoDistinctCodes
      alice.id (aliceDisables.log.filter (!·.operation.disables)) := by decide +kernel
  have accepted := (accepts _ reachable alice "MNPQ-RSTU-VWXY").mpr ⟨unlocked, latest⟩
  rw [refused] at accepted
  cases accepted

end EnterpriseAuth
