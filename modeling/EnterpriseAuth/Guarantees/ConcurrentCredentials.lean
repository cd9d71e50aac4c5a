import EnterpriseAuth.Guarantees.SecondFactor
import EnterpriseAuth.Requests.OneTimeRows
import EnterpriseAuth.Requests.TwoFactor

/-!
# One-time credentials in the database under concurrency

Requests that present one email token or one recovery code read the row unused, write `used_at` by
its key and commit.  None of the statements looks whether the row is still unused, so of two
requests that have read it both commit.  Where no request reads the row while another one is between
its read and its end, the credential is consumed once.
-/

namespace EnterpriseAuth

open Effects Program TwoFactorService EmailAccountService

variable {T : Type} {ι : Type} (env : Environment T)

/-! ## Credentials -/

inductive Credential where
  | emailToken (raw : String)
  | recoveryCode (userId : Uuid) (code : String)

/-- The row that stands for a credential. -/
inductive CredentialRow where
  | token (hash : String)
  | code (id : Uuid)

/-- The credential would consume the row. -/
def Credential.Usable : Credential → Database T → CredentialRow → Prop
  | .emailToken raw, db, .token hash => hash = env.sha256Hex raw ∧
      ∃ token, db.emailTokens.find hash = some token ∧ token.usedAt = none
  | .recoveryCode userId code, db, .code id => ∃ row, db.backupCodes.find id = some row ∧
      row.userId = userId ∧ row.usedAt = none ∧
      env.verifyPassword (env.upper (Text.strip code)) row.hashedCode = true
  | _, _, _ => False

/-- A recovery code is looked up after the lock of the user. -/
def Credential.Ready (credential : Credential)
    (log : List (Performed (Command T) Command.Res AppError (Shared T))) : Prop :=
  match credential with
  | .emailToken _ => True
  | .recoveryCode userId _ => ∃ entry ∈ log,
      entry.op = .redis (.present (RateLimiter.lockoutKey env (lockId userId) none))

def Arrival.Presents (arrival : Arrival) : Credential → Prop
  | .emailToken raw => arrival.route = .openTo (.verifyEmail raw) ∨
      (∃ newPassword, arrival.route = .openTo (.resetPassword raw newPassword)) ∨
      arrival.route = .openTo (.confirmEmailChange raw)
  | .recoveryCode userId code => ∃ payload claims,
      arrival.route = .login (.loginRecoveryCode payload) ∧ payload.recoveryCode = code ∧
      payload.preAuthToken = .signed claims ∧ claims.sub = userId

/-! ## Statements -/

section
variable {env} {credential : Credential}

theorem usable_of_same {before after : Database T} (tokens : after.emailTokens = before.emailTokens)
    (codes : after.backupCodes = before.backupCodes) {row : CredentialRow}
    (usable : credential.Usable env after row) : credential.Usable env before row := by
  have same : credential.Usable env after row = credential.Usable env before row := by
    cases credential <;> cases row <;> simp only [Credential.Usable, tokens, codes]
  rwa [← same]

instance (session : Session T) :
    Consuming (credential.Usable env) (Database.insertSession session) where
  wasUsable before after changed row usable := by
    obtain ⟨-, -, _, -, rfl⟩ := Database.insertSession_ok changed
    refine usable_of_same ?_ ?_ usable <;> rfl

instance (id : Uuid) (change : User T → User T) (keeps) :
    Consuming (credential.Usable env) (Database.updateUser id change keeps) where
  wasUsable before after changed row usable := by
    obtain ⟨_, -, -, -, rfl⟩ := Database.updateUser_ok changed
    refine usable_of_same ?_ ?_ usable <;> rfl

/-- The row under the hash is used from now on, and no other row changes. -/
theorem usable_tokenUsed {hash : String} {now : T} {before after : Database T}
    (changed : Database.updateEmailToken hash (fun token => { token with usedAt := some now })
      (fun _ => rfl) before = .ok after) {row : CredentialRow}
    (usable : credential.Usable env after row) :
    credential.Usable env before row ∧ row ≠ .token hash := by
  obtain ⟨_, -, rfl⟩ := Database.updateEmailToken_ok changed
  cases credential <;> cases row <;> simp only [Credential.Usable] at usable ⊢
  case emailToken.token raw other =>
    obtain ⟨isHash, token, found, unused⟩ := usable
    rw [Table.find_modify] at found
    split at found
    · obtain ⟨_, -, rfl⟩ := Option.map_eq_some_iff.mp found
      cases unused
    next different =>
      exact ⟨⟨isHash, token, found, unused⟩, fun same => different (CredentialRow.token.inj same)⟩
  case recoveryCode.code => exact ⟨usable, by simp⟩

theorem usable_codeUsed {id : Uuid} {now : T} {before after : Database T}
    (changed : Database.updateBackupCode id (fun code => { code with usedAt := some now })
      (fun _ => rfl) before = .ok after) {row : CredentialRow}
    (usable : credential.Usable env after row) :
    credential.Usable env before row ∧ row ≠ .code id := by
  obtain ⟨_, -, rfl⟩ := Database.updateBackupCode_ok changed
  cases credential <;> cases row <;> simp only [Credential.Usable] at usable ⊢
  case emailToken.token => exact ⟨usable, by simp⟩
  case recoveryCode.code userId code other =>
    obtain ⟨row, found, owner, unused, verified⟩ := usable
    rw [Table.find_modify] at found
    split at found
    · obtain ⟨_, -, rfl⟩ := Option.map_eq_some_iff.mp found
      cases unused
    next different =>
      exact ⟨⟨row, found, owner, unused, verified⟩,
        fun same => different (CredentialRow.code.inj same)⟩

instance (hash : String) (now : T) (keeps) : Consuming (credential.Usable env)
    (Database.updateEmailToken hash (fun token => { token with usedAt := some now }) keeps) where
  wasUsable _ _ changed _ usable := (usable_tokenUsed changed usable).1

instance (id : Uuid) (now : T) (keeps) : Consuming (credential.Usable env)
    (Database.updateBackupCode id (fun code => { code with usedAt := some now }) keeps) where
  wasUsable _ _ changed _ usable := (usable_codeUsed changed usable).1

instance : Admits (Command.Sparing (credential.Usable env)) .now := ⟨trivial⟩
instance : Admits (Command.Sparing (credential.Usable env)) .draw := ⟨trivial⟩
instance : Admits (Command.Sparing (credential.Usable env)) .view := ⟨trivial⟩

instance (mail : Mail) : Admits (Command.Sparing (credential.Usable env)) (.addTask mail) := ⟨trivial⟩

instance (change : Database T → Except AppError (Database T))
    [consuming : Consuming (credential.Usable env) change] :
    Admits (Command.Sparing (credential.Usable env)) (.write change) := ⟨consuming⟩

instance (key : Key) : Opens (Command.Sparing (credential.Usable env)) key := ⟨fun _ _ => trivial⟩

end

/-! ## Requests -/

section
variable [CommRing T] [LinearOrder T]

/-- Nobody reads the row of the credential while another request is between its read and its end. -/
def Credential.once (credential : Credential) :
    OneTime (Command T) Command.Res AppError (Transaction T) (Shared T) :=
  rowOnce (credential.Usable env) (credential.Ready env)

/-- The request has consumed the credential. -/
def Credential.ConsumedIn (credential : Credential) (vantage : RowVantage T) : Prop :=
  ∃ row, RowConsumed (credential.Usable env) (credential.Ready env) row vantage

variable {env}

theorem obeys_consume (raw : String) (purpose : Purpose) :
    ((Credential.emailToken raw).once env).discipline.Obeys
      (Unlooked ((Credential.emailToken raw).Usable env)) (consume env raw purpose)
      (fun _ => (Credential.emailToken raw).ConsumedIn env) fun _ _ => True := by
  simp only [consume, throw_bind]
  refine (obeys_look.enter fun _ unlooked => ⟨unlooked, trivial⟩).bind fun db => ?_
  cases found : db.emailTokens.find (env.sha256Hex raw) with
  | none => exact .throw fun _ _ => trivial
  | some token =>
    refine .ite (fun _ => .throw fun _ _ => trivial) fun accepted => ?_
    have unused : token.usedAt = none := by
      rw [not_or, Option.not_isSome_iff_eq_none] at accepted
      exact accepted.2
    have hash : token.tokenHash = env.sha256Hex raw := Table.find_key found
    have usable : (Credential.emailToken raw).Usable env db (.token token.tokenHash) :=
      ⟨hash, token, hash ▸ found, unused⟩
    refine ((lasting_looked.obeys_calls now).enter fun _ looked => looked _ usable).bind
      fun instant => .ite (fun _ => .throw fun _ _ => trivial) fun _ => ?_
    refine (obeys_mark _ fun before after changed isUsable => ?_).bind
      fun _ => .pure fun _ consumed => ⟨_, consumed⟩
    exact (usable_tokenUsed changed isUsable).2 rfl

/-! ### Email tokens -/

/-- A request that has consumed the credential goes on with sparing commands. -/
theorem obeys_afterwards {credential : Credential} {α : Type} (program : App T α)
    [Calls (Command.Sparing (credential.Usable env)) program] :
    (credential.once env).discipline.Obeys (credential.ConsumedIn env) program
      (fun _ => credential.ConsumedIn env) fun _ _ => True :=
  fun vantage ⟨row, consumed⟩ => (lasting_consumed.obeys_calls program).weaken (fun _ => id)
    (fun _ _ consumed => ⟨row, consumed⟩) (fun _ _ => id) vantage consumed

theorem obeys_before {credential : Credential} {α : Type} (program : App T α)
    [Calls (Command.Sparing (credential.Usable env)) program] :
    (credential.once env).discipline.Obeys (Unlooked (credential.Usable env)) program
      (fun _ => Unlooked (credential.Usable env)) fun _ _ => True :=
  lasting_unlooked.obeys_calls program

theorem obeys_verifyEmail (raw : String) :
    ((Credential.emailToken raw).once env).discipline.Obeys
      (Unlooked ((Credential.emailToken raw).Usable env)) (EmailAccountService.verifyEmail env raw)
      (fun _ => (Credential.emailToken raw).ConsumedIn env) fun _ _ => True := by
  unfold EmailAccountService.verifyEmail
  refine (obeys_consume raw .verifyEmail).bind fun token => (obeys_afterwards view).bind fun db => ?_
  split
  · exact .throw fun _ _ => trivial
  · exact obeys_afterwards _

theorem obeys_resetPassword (raw newPassword : String) :
    ((Credential.emailToken raw).once env).discipline.Obeys
      (Unlooked ((Credential.emailToken raw).Usable env))
      (EmailAccountService.resetPassword env raw newPassword)
      (fun _ => (Credential.emailToken raw).ConsumedIn env) fun _ _ => True := by
  unfold EmailAccountService.resetPassword
  refine (obeys_before _).bind fun _ => (obeys_consume raw .resetPassword).bind fun token =>
    (obeys_afterwards view).bind fun db => ?_
  split
  · exact .throw fun _ _ => trivial
  · exact obeys_afterwards _

theorem obeys_confirmEmailChange (raw : String) :
    ((Credential.emailToken raw).once env).discipline.Obeys
      (Unlooked ((Credential.emailToken raw).Usable env))
      (EmailAccountService.confirmEmailChange env raw)
      (fun _ => (Credential.emailToken raw).ConsumedIn env) fun _ _ => True := by
  simp only [EmailAccountService.confirmEmailChange, throw_bind]
  refine (obeys_consume raw .changeEmail).bind fun token => (obeys_afterwards view).bind fun db => ?_
  split
  · exact obeys_afterwards _
  · exact .throw fun _ _ => trivial

/-! ### Recovery codes -/

theorem obeys_consumeFirst (userId : Uuid) (code normalized : String)
    (candidates : List (BackupCode T)) :
    ((Credential.recoveryCode userId code).once env).discipline.Obeys
      (fun vantage => ∀ row ∈ candidates, env.verifyPassword normalized row.hashedCode = true →
        Looked ((Credential.recoveryCode userId code).Usable env)
          ((Credential.recoveryCode userId code).Ready env) (.code row.id) vantage)
      (consumeFirst env normalized candidates)
      (fun found vantage => found = true → (Credential.recoveryCode userId code).ConsumedIn env vantage)
      fun _ _ => True := by
  induction candidates with
  | nil => exact .pure fun _ _ found => by cases found
  | cons candidate candidates inductionHypothesis =>
    unfold consumeFirst
    refine .ite (fun verified => ?_) fun _ => inductionHypothesis.enter fun _ looked row member =>
      looked row (.tail _ member)
    refine ((lasting_looked.obeys_calls now).enter fun _ looked =>
      looked candidate List.mem_cons_self verified).bind fun instant => ?_
    refine (obeys_mark _ fun before after changed isUsable => ?_).bind
      fun _ => .pure fun _ consumed _ => ⟨_, consumed⟩
    exact (usable_codeUsed changed isUsable).2 rfl

/-- The lock of the user has been asked for. -/
theorem obeys_ensureNotLocked (userId : Uuid) (code : String) :
    ((Credential.recoveryCode userId code).once env).discipline.Obeys
      (Unlooked ((Credential.recoveryCode userId code).Usable env))
      (RateLimiter.ensureNotLocked env (lockId userId) none)
      (fun _ vantage => Unlooked ((Credential.recoveryCode userId code).Usable env) vantage ∧
        (Credential.recoveryCode userId code).Ready env vantage.log) fun _ _ => True := by
  have asks : ((Credential.recoveryCode userId code).once env).discipline.Obeys
      (Unlooked ((Credential.recoveryCode userId code).Usable env))
      (present (RateLimiter.lockoutKey env (lockId userId) none) : App T Bool)
      (fun _ vantage => Unlooked ((Credential.recoveryCode userId code).Usable env) vantage ∧
        (Credential.recoveryCode userId code).Ready env vantage.log) fun _ _ => True := by
    refine .call fun vantage shared unlooked evolves _ => ?_
    have here := lasting_unlooked.waits _ _ _ _ unlooked evolves.1
    have sparing : (Command.redis (.present (RateLimiter.lockoutKey env (lockId userId) none)) :
      Command T).Sparing ((Credential.recoveryCode userId code).Usable env) := trivial
    obtain ⟨permits, stays⟩ := lasting_unlooked.command sparing ⟨_, _, _⟩ here
    exact ⟨permits, stays, ⟨_, List.mem_cons_self, rfl⟩⟩
  unfold RateLimiter.ensureNotLocked
  refine (Discipline.Obeys.tryCatch asks fun error => ?_).bind fun locked =>
    .ite (fun _ => .throw fun _ _ => trivial) fun _ => .pure fun _ => id
  exact .ite (fun _ => .throw fun _ _ => trivial) fun _ => .throw fun _ _ => trivial

theorem obeys_consumeRecoveryCode (user : User T) (code : String) :
    ((Credential.recoveryCode user.id code).once env).discipline.Obeys
      (Unlooked ((Credential.recoveryCode user.id code).Usable env))
      (consumeRecoveryCode env user code)
      (fun _ => (Credential.recoveryCode user.id code).ConsumedIn env) fun _ _ => True := by
  unfold consumeRecoveryCode
  refine (obeys_ensureNotLocked user.id code).bind fun _ => obeys_look.bind fun db => ?_
  have usable (row : BackupCode T) (member : row ∈ db.listUnused user.id)
      (verified : env.verifyPassword (env.upper (Text.strip code)) row.hashedCode = true) :
      (Credential.recoveryCode user.id code).Usable env db (.code row.id) := by
    obtain ⟨stored, unused⟩ := List.mem_filter.mp member
    simp only [Bool.and_eq_true, decide_eq_true_eq, Option.isNone_iff_eq_none] at unused
    exact ⟨row, Table.find_of_mem stored, unused.1, unused.2, verified⟩
  refine ((obeys_consumeFirst user.id code _ _).enter fun _ looked row member verified =>
    looked _ (usable row member verified)).bind fun found => .ite (fun isFound => ?_) fun _ => ?_
  · exact (obeys_afterwards _).enter fun _ consumed => consumed isFound
  · exact ((lasting_trivial.obeys_calls (RateLimiter.recordFailure env _ _)).enter
      fun _ _ => trivial).bind fun _ => .throw fun _ _ => trivial

theorem obeys_verifyPreAuth {credential : Credential} (claims : Claims) :
    (credential.once env).discipline.Obeys (Unlooked (credential.Usable env))
      (TokenService.verifyPreAuth (.signed claims) : App T Uuid)
      (fun userId vantage => userId = claims.sub ∧ Unlooked (credential.Usable env) vantage)
      fun _ _ => True := by
  have decoded : (decodeToken (.signed claims) .preAuth : App T Claims).Every
      (Command.Sparing (credential.Usable env)) (· = claims) := by
    unfold decodeToken
    refine Every.bind (Every.call trivial fun _ => trivial) fun instant _ => ?_
    exact .ite (fun _ => .throw _) fun _ => .ite (fun _ => .throw _) fun _ => .pure rfl
  refine lasting_unlooked.obeys (Every.bind (decoded.tryCatch fun error => ?_)
    fun payload same => .pure (same ▸ rfl))
  exact .ite (fun _ => .throw _) fun _ => .throw _

theorem obeys_loadUserForOtp {credential : Credential} (userId : Uuid) :
    (credential.once env).discipline.Obeys (Unlooked (credential.Usable env))
      (loadUserForOtp userId : App T (User T))
      (fun user vantage => user.id = userId ∧ Unlooked (credential.Usable env) vantage)
      fun _ _ => True := by
  refine lasting_unlooked.obeys ?_
  unfold loadUserForOtp
  refine Every.sequence (Every.call trivial fun _ => trivial) fun db => ?_
  split
  · exact .throw _
  next user found => exact .ite (fun _ => .throw _) fun _ => .pure (Table.find_key found)

/-! ### Whole requests -/

variable [FloorRing T]

theorem obeys_dispatch {credential : Credential} {arrival : Arrival}
    (presents : arrival.Presents credential) :
    (credential.once env).discipline.Obeys (Unlooked (credential.Usable env))
      (dispatch env arrival) (fun _ => credential.ConsumedIn env) fun _ _ => True := by
  cases credential with
  | emailToken raw =>
    rcases presents with route | ⟨newPassword, route⟩ | route <;>
      simp only [dispatch, route, serveOpen] <;> refine .map ?_
    · exact (obeys_before _).bind fun _ => (obeys_verifyEmail raw).bind fun _ => .pure fun _ => id
    · exact (obeys_before _).bind fun _ => (obeys_before _).bind fun _ =>
        (obeys_resetPassword raw newPassword).bind fun _ => .pure fun _ => id
    · exact (obeys_before _).bind fun _ => (obeys_confirmEmailChange raw).bind fun _ =>
        .pure fun _ => id
  | recoveryCode userId code =>
    obtain ⟨payload, claims, route, rfl, signed, rfl⟩ := presents
    simp only [dispatch, route, serveLogin]
    refine .map ?_
    unfold loginRecoveryCode
    rw [signed]
    refine (obeys_before _).bind fun _ => (obeys_before _).bind fun _ =>
      (obeys_verifyPreAuth claims).bind fun subject => .of_fact ?_
    rintro rfl
    refine (obeys_loadUserForOtp claims.sub).bind fun user => .of_fact fun isSubject => ?_
    rw [← isSubject]
    exact (obeys_consumeRecoveryCode user payload.recoveryCode).bind fun _ => obeys_afterwards _

theorem obeys_serve {credential : Credential} {arrival : Arrival}
    (presents : arrival.Presents credential) :
    (credential.once env).discipline.Obeys (Unlooked (credential.Usable env)) (serve env arrival)
      (fun _ vantage => (credential.once env).Marked vantage.log) fun _ _ => True :=
  (obeys_before _).bind fun _ => obeys_getDb (obeys_dispatch presents)

/-- Requests that present one credential, while others leave what it is good for alone. -/
def credentialRequests [DecidableEq ι] (env : Environment T) (credential : Credential)
    (arrivals : ι → Arrival) :
    System (Pool ι (Command T) Command.Res AppError (Reply T) (Transaction T) (Shared T))
      (Option ι) :=
  interleavings concurrently
    (fun before after => ∀ row, credential.Usable env after.committed row →
      credential.Usable env before.committed row)
    (fun i => serve env (arrivals i)) (fun _ => {})
    fun shared => ∀ row other, credential.Usable env shared.committed row →
      credential.Usable env shared.committed other → row = other

/-- In the runs in which no request reads the row of the credential while another one is between
its read and its end, at most one request succeeds. -/
theorem stored_credential_consumed_once [DecidableEq ι] {credential : Credential}
    {arrivals : ι → Arrival} (presents : ∀ i, (arrivals i).Presents credential)
    {pool : Pool ι (Command T) Command.Res AppError (Reply T) (Transaction T) (Shared T)}
    (reachable : ((credentialRequests env credential arrivals).guarded
      (credential.once env).OneAtATime).Reachable pool) : pool.AtMostOneReturned := by
  refine OneTime.at_most_once (credential.once env) reachable (fun i => ?_)
    fun before after moves => ⟨moves, fun spent row usable => spent row (moves row usable)⟩
  refine (obeys_serve (presents i)).enter fun vantage entered => ⟨?_, entered.2.2⟩
  rw [entered.1]
  exact fun change member => by cases member

end

/-! ## Two requests -/

/-- Alice has registered, and the token of her verification mail is unused. -/
def aliceUnverified : World ℚ := World.new.play demo [.request registerAlice]

def aliceLetter : Credential := .emailToken "url-safe-token-6"

def aliceVerifies : Arrival where
  http := {}
  route := .openTo (.verifyEmail "url-safe-token-6")

/-- Alice's second factor is enabled, and one recovery code is left. -/
def aliceLastCode : Shared ℚ :=
  { aliceAuthorizes.shared with
    committed := { aliceAuthorizes.db with
      backupCodes := ⟨[{ id := 50, userId := 1, hashedCode := "$ABCD-EFGH-JKLM" }], by decide⟩ } }

def aliceCode : Credential := .recoveryCode 1 "abcd-efgh-jklm"

def aliceRecovers : Arrival where
  http := {}
  route := .login (.loginRecoveryCode
    { preAuthToken := .signed { sub := 1, type := .preAuth, jti := 60, iat := 0, exp := 300 }
      recoveryCode := "abcd-efgh-jklm" })

theorem aliceLetter_one (row other : CredentialRow)
    (usable : aliceLetter.Usable demo aliceUnverified.shared.committed row)
    (otherUsable : aliceLetter.Usable demo aliceUnverified.shared.committed other) : row = other := by
  cases row with
  | token hash =>
    cases other with
    | token otherHash => rw [usable.1, otherUsable.1]
    | code => exact otherUsable.elim
  | code => exact usable.elim

theorem aliceCode_one (row other : CredentialRow)
    (usable : aliceCode.Usable demo aliceLastCode.committed row)
    (otherUsable : aliceCode.Usable demo aliceLastCode.committed other) : row = other := by
  have only (id : Uuid) (isUsable : aliceCode.Usable demo aliceLastCode.committed (.code id)) :
      id = 50 := by
    obtain ⟨stored, found, -⟩ := isUsable
    have member := Table.find_mem found
    have key := Table.find_key found
    simp only [aliceLastCode, List.mem_singleton] at member
    rw [← key, member]
  cases row with
  | token => exact usable.elim
  | code id =>
    cases other with
    | token => exact otherUsable.elim
    | code otherId => rw [only id usable, only otherId otherUsable]

theorem aliceVerifies_presents : aliceVerifies.Presents aliceLetter := .inl rfl

/-- Two requests that have not begun. -/
def bothArrivals (arrival : Arrival) (shared : Shared ℚ) :
    Pool Bool (Command ℚ) Command.Res AppError (Reply ℚ) (Transaction ℚ) (Shared ℚ) :=
  ⟨fun _ => ⟨serve demo arrival, {}, []⟩, shared⟩

/-- One request after the other: the second finds the token used. -/
theorem stored_credential_consumed_once_in_turn :
    ((bothArrivals aliceVerifies aliceUnverified.shared).afterTurns concurrently
      (fun pool turn => (pool.threads !turn).idle)
      (List.replicate 7 false ++ [true, true])).AtMostOneReturned := by
  have reachable : ((credentialRequests demo aliceLetter fun _ : Bool => aliceVerifies).guarded
      (aliceLetter.once demo).OneAtATime).Reachable
      ((bothArrivals aliceVerifies aliceUnverified.shared).afterTurns concurrently
        (fun pool turn => (pool.threads !turn).idle) (List.replicate 7 false ++ [true, true])) :=
    Pool.reachable_afterTurns aliceLetter_one
      (fun pool turn idle => OneTime.oneAtATime_of_idle idle trivial) (by decide +kernel)
  exact stored_credential_consumed_once (fun _ => aliceVerifies_presents) reachable

/-- Both requests read before either commits: both consume the token, and both the code. -/
theorem stored_credential_consumed_twice :
    (¬ ∀ pool, (credentialRequests demo aliceLetter fun _ : Bool => aliceVerifies).Reachable pool →
      pool.AtMostOneReturned) ∧
    ¬ ∀ pool, (credentialRequests demo aliceCode fun _ : Bool => aliceRecovers).Reachable pool →
      pool.AtMostOneReturned := by
  have letters : (credentialRequests demo aliceLetter fun _ : Bool => aliceVerifies).Reachable
      ((bothArrivals aliceVerifies aliceUnverified.shared).afterTurns concurrently (fun _ _ => true)
        (List.replicate 3 false ++ List.replicate 3 true ++ List.replicate 4 false ++
          List.replicate 4 true)) :=
    Pool.reachable_schedule aliceLetter_one (by decide +kernel)
  have codes : (credentialRequests demo aliceCode fun _ : Bool => aliceRecovers).Reachable
      ((bothArrivals aliceRecovers aliceLastCode).afterTurns concurrently (fun _ _ => true)
        (List.replicate 7 false ++ List.replicate 7 true ++ List.replicate 16 false ++
          List.replicate 16 true)) :=
    Pool.reachable_schedule aliceCode_one (by decide +kernel)
  exact ⟨fun once => Pool.not_atMostOneReturned Bool.false_ne_true (by decide +kernel)
      (by decide +kernel) (once _ letters),
    fun once => Pool.not_atMostOneReturned Bool.false_ne_true (by decide +kernel)
      (by decide +kernel) (once _ codes)⟩

end EnterpriseAuth
