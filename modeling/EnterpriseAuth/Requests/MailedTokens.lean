import EnterpriseAuth.Requests.ConductOfRoutes
import EnterpriseAuth.Requests.Logins

/-!
# Email tokens

What the services for mailed tokens do.  They go by the stored tokens, by the address of each user and
whether it is verified, and by the letters that are sent: this is the `MailState` of a server.  A token
that is issued displaces the user's other tokens of the purpose, and a token that is redeemed
authorises one change to its user.
-/

namespace EnterpriseAuth

open Effects Program EmailAccountService

set_option synthInstance.maxSize 1000

variable {T : Type} {env : Environment T}

/-! ## The state of the mail flows -/

structure MailState (T : Type) where
  tokens : Table (EmailToken.tokenHash (T := T))
  /-- the address of a user and whether it is verified -/
  address : Uuid → Option (String × Bool)
  /-- the recipients of letters with the tokens they carry -/
  letters : List (String × String)

def Server.mail (server : Server T) : MailState T where
  tokens := server.working.emailTokens
  address := server.working.address
  letters := server.tasks.filterMap Mail.letter

/-- Nothing that the mail flows go by has changed, and time and draws have not gone back. -/
structure Server.Beside (before after : Server T) : Prop where
  mail : after.mail = before.mail
  clock : after.clock = before.clock
  draws : before.draws ≤ after.draws

theorem Server.Beside.trans {first second third : Server T} (left : first.Beside second)
    (right : second.Beside third) : first.Beside third :=
  ⟨right.mail.trans left.mail, right.clock.trans left.clock, left.draws.trans right.draws⟩

section
variable [CommRing T] [LinearOrder T]

theorem Command.Allowed.beside {command : Command T} (allowed : command.Allowed .mailless)
    (server : Server T) : server.Beside (handle command server).2 := by
  cases command with
  | draw => exact ⟨rfl, rfl, Nat.le_succ _⟩
  | write change =>
    simp only [handle]
    split
    next working changed =>
      have kept : server.working.KeepsMail working :=
        (allowed _ _ changed).2.1.resolve_left id
      refine ⟨?_, rfl, le_rfl⟩
      simp only [Server.mail, kept.emailTokens, funext kept.address]
    next => exact ⟨rfl, rfl, le_rfl⟩
  | addTask mail =>
    have notice : mail.letter = none := Or.resolve_left allowed id
    refine ⟨?_, rfl, le_rfl⟩
    simp [handle, Server.mail, notice]
  | now | redis | view | commit => exact ⟨rfl, rfl, le_rfl⟩

/-- A program without power over the mail flows runs beside them. -/
theorem beside_of_run {α : Type} {program : App T α} [conducts : Conducts .mailless program]
    {server final : Server T} {result : Except AppError α}
    (ran : program.run handle server = (result, final)) : server.Beside final := by
  have keeps : Keeps handle (fun state => server.Beside state) program :=
    conducts.every.keeps fun command state allowed beside => beside.trans (allowed.beside state)
  have beside := keeps.final ⟨rfl, rfl, le_rfl⟩
  rwa [ran] at beside

theorem draws_of_run {α : Type} {program : App T α} {server final : Server T}
    {result : Except AppError α} (ran : program.run handle server = (result, final)) :
    server.draws ≤ final.draws := by
  have keeps : Keeps handle (fun state : Server T => server.draws ≤ state.draws) program := by
    refine (Every.anything program).keeps fun command state _ order => ?_
    cases command with
    | draw => exact order.trans (Nat.le_succ _)
    | write =>
      simp only [handle]
      split <;> exact order
    | now | redis | view | commit | addTask => exact order
  have order := keeps.final le_rfl
  rwa [ran] at order

end

/-! ## What can happen to the mail flows -/

/-- A token is stored in the place of the user's other tokens of its purpose, and mailed. -/
structure Issued (env : Environment T) (before after : MailState T) (row : EmailToken T)
    (recipient raw : String) : Prop where
  hash : row.tokenHash = env.sha256Hex raw
  unused : row.usedAt = none
  tokens : (before.tokens.removeWhere fun token =>
    token.userId = row.userId && token.purpose = row.purpose).insert row = some after.tokens
  address : after.address = before.address
  letters : after.letters = before.letters ++ [(recipient, raw)]
  known : (before.address row.userId).isSome
  verification : row.purpose = .verifyEmail → before.address row.userId = some (recipient, false)
  reset : row.purpose = .resetPassword →
    ∃ verified, before.address row.userId = some (recipient, verified)
  change : row.purpose = .changeEmail → row.newEmail = some recipient

/-- A user is added. -/
structure Enrolled (before after : MailState T) (userId : Uuid) (email : String) (verified : Bool) :
    Prop where
  fresh : before.address userId = none
  address : after.address = Function.update before.address userId (some (email, verified))
  tokens : after.tokens = before.tokens
  letters : after.letters = before.letters

/-- A token that is accepted for the purpose. -/
structure EmailToken.Valid (token : EmailToken T) [LinearOrder T] (purpose : Purpose) (now : T) :
    Prop where
  purpose : token.purpose = purpose
  unused : token.usedAt = none
  unexpired : now < token.expiresAt

def EmailToken.used (token : EmailToken T) (now : T) : EmailToken T :=
  { token with usedAt := some now }

/-- The tokens once the one under the hash has been used up. -/
def useToken (tokens : Table (EmailToken.tokenHash (T := T))) (hash : String) (now : T) :
    Table (EmailToken.tokenHash (T := T)) :=
  tokens.modify hash (·.used now) fun _ => rfl

theorem find_useToken (tokens : Table (EmailToken.tokenHash (T := T))) (hash other : String) (now : T) :
    (useToken tokens hash now).find other =
      if other = hash then (tokens.find other).map (·.used now) else tokens.find other :=
  Table.find_modify tokens hash other _ _

/-- What a redeemed token does to the address of its user. -/
def EmailToken.proves (token : EmailToken T) (address : String × Bool) : String × Bool :=
  match token.purpose with
  | .verifyEmail => (address.1, true)
  | .resetPassword => address
  | .changeEmail => (token.newEmail.getD address.1, true)

/-- The routes that redeem a token, with its purpose. -/
def OpenRoute.redeems : OpenRoute → Option (Purpose × String)
  | .verifyEmail raw => some (.verifyEmail, raw)
  | .resetPassword raw _ => some (.resetPassword, raw)
  | .confirmEmailChange raw => some (.changeEmail, raw)
  | .forgotPassword _ | .oauthAuthorize _ => none

def Route.redeems : Route → Option (Purpose × String)
  | .openTo route => route.redeems
  | _ => none

/-- A stored token is used up for what it was issued for. -/
structure Redeemed (env : Environment T) [LinearOrder T] (now : T) (before after : MailState T)
    (purpose : Purpose) (raw : String) (token : EmailToken T) : Prop where
  found : before.tokens.find (env.sha256Hex raw) = some token
  valid : token.Valid purpose now
  newEmail : purpose = .changeEmail → token.newEmail.isSome
  tokens : after.tokens = useToken before.tokens (env.sha256Hex raw) now
  address : after.address = Function.update before.address token.userId
    ((before.address token.userId).map token.proves)
  letters : after.letters = before.letters

/-- The provider that the request asks reports the address. -/
def Arrival.Reports (arrival : Arrival) (reported : String) (verified : Bool) : Prop :=
  ∃ provider code state configured codeVerifier token info,
    arrival.route = .login (.oauthCallback provider code state) ∧
    arrival.registry provider = some configured ∧
    configured.exchangeCode code codeVerifier = .ok token ∧
    configured.fetchUserInfo token = .ok info ∧
    info.email = some reported ∧ info.emailVerified = verified

/-- What a request does to the mail flows. -/
inductive MailOutcome (env : Environment T) [LinearOrder T] (arrival : Arrival) (now : T)
    (since upTo : ℕ) (before after : MailState T) : Prop
  | kept (same : after = before)
  | issued {middle : MailState T} {row : EmailToken T} {recipient raw : String} {draw : ℕ}
    (enrolls : middle = before ∨ ∃ userId email, Enrolled before middle userId email false)
    (drawn : raw = env.tokenUrlsafe draw) (first : since ≤ draw) (last : draw < upTo)
    (issued : Issued env middle after row recipient raw)
  | enrolled {userId : Uuid} {reported : String} {verified : Bool}
    (reports : arrival.Reports reported verified)
    (enrolled : Enrolled before after userId (env.lower reported) verified)
  | redeemed {purpose : Purpose} {raw : String} {token : EmailToken T}
    (redeems : arrival.route.redeems = some (purpose, raw))
    (redeemed : Redeemed env now before after purpose raw token)

/-! ## Issuing -/

section
variable [CommRing T]

variable (env) in
/-- The row under which a token that is issued now is stored. -/
def Server.newToken (server : Server T) (userId : Uuid) (purpose : Purpose) (ttlSeconds : ℕ)
    (newEmail : Option String) : EmailToken T :=
  { userId, purpose, newEmail
    tokenHash := env.sha256Hex (env.tokenUrlsafe server.draws)
    expiresAt := server.clock + (ttlSeconds : T) }

variable [LinearOrder T] {server final : Server T}

theorem issue_ok {user : User T} {purpose : Purpose} {ttlSeconds : ℕ} {newEmail : Option String}
    {raw : String}
    (ran : (issue env user purpose ttlSeconds newEmail).run handle server = (.ok raw, final)) :
    raw = env.tokenUrlsafe server.draws ∧ server.working.userExists user.id = true ∧ ∃ tokens,
      (server.working.emailTokens.removeWhere fun token =>
        token.userId = user.id && token.purpose = purpose).insert
          (server.newToken env user.id purpose ttlSeconds newEmail) = some tokens ∧
      final = { server with
        working := { server.working with emailTokens := tokens }, draws := server.draws + 1 } := by
  simp only [issue, run_bind, run_write, Database.deleteEmailTokens, run_uuid4, run_now] at ran
  split at ran
  next working inserting =>
    split at inserting
    next written =>
      cases inserting
      obtain ⟨-, known, tokens, inserted, rfl⟩ := Database.insertEmailToken_ok written
      cases ran
      exact ⟨rfl, known, tokens, inserted, rfl⟩
    next => cases inserting
  next => cases ran

/-- A token that is issued and then mailed to a recipient. -/
theorem issued_of_issue {user : User T} {purpose : Purpose} {ttlSeconds : ℕ}
    {newEmail : Option String} {raw recipient : String} {middle : Server T}
    (ran : (issue env user purpose ttlSeconds newEmail).run handle server = (.ok raw, middle))
    (mails : List Mail) (letter : mails.filterMap Mail.letter = [(recipient, raw)])
    (verification : purpose = .verifyEmail →
      server.working.address user.id = some (recipient, false))
    (reset : purpose = .resetPassword →
      ∃ verified, server.working.address user.id = some (recipient, verified))
    (change : purpose = .changeEmail → newEmail = some recipient) :
    ∃ row, Issued env server.mail { middle with tasks := middle.tasks ++ mails }.mail row recipient
      (env.tokenUrlsafe server.draws) ∧ server.draws < middle.draws := by
  obtain ⟨rfl, known, tokens, inserted, rfl⟩ := issue_ok ran
  refine ⟨server.newToken env user.id purpose ttlSeconds newEmail, {
    hash := rfl
    unused := rfl
    tokens := inserted
    address := rfl
    letters := ?_
    known := ?_
    verification := verification
    reset := reset
    change := change }, Nat.lt_succ_self _⟩
  · simp [Server.mail, letter]
  · have known : (server.working.users.find user.id).isSome := known
    simpa [Server.mail, Server.newToken, Database.address] using known

theorem sendSignupEmails_ok {user : User T}
    (ran : (sendSignupEmails env user).run handle server = (.ok (), final))
    (address : server.working.address user.id = some (user.email, false)) :
    ∃ row, Issued env server.mail final.mail row user.email (env.tokenUrlsafe server.draws) ∧
      server.draws < final.draws := by
  obtain ⟨raw, middle, issues, rest⟩ := run_bind_ok ran
  simp only [run_bind, run_addTask, List.append_assoc] at rest
  cases rest
  exact issued_of_issue issues _ rfl (fun _ => address) nofun nofun

theorem resendVerification_ok {user : User T}
    (ran : (EmailAccountService.resendVerification env user).run handle server = (.ok (), final))
    (address : server.working.address user.id = some (user.email, user.isVerified)) :
    ∃ row, Issued env server.mail final.mail row user.email (env.tokenUrlsafe server.draws) ∧
      server.draws < final.draws := by
  simp only [EmailAccountService.resendVerification, throw_bind] at ran
  cases verified : user.isVerified with
  | true => simp [verified] at ran
  | false =>
    rw [verified] at ran
    obtain ⟨raw, middle, issues, rest⟩ := run_bind_ok ran
    rw [run_addTask] at rest
    cases rest
    rw [verified] at address
    exact issued_of_issue issues _ rfl (fun _ => address) nofun nofun

/-- Whether an address belongs to a user or not, at most one token is issued for it. -/
theorem requestPasswordReset_ok {email : String}
    (ran : (requestPasswordReset env email).run handle server = (.ok (), final)) :
    final.mail = server.mail ∨ ∃ row recipient,
      Issued env server.mail final.mail row recipient (env.tokenUrlsafe server.draws) ∧
        server.draws < final.draws := by
  obtain ⟨owner, middle, looked, rest⟩ := run_bind_ok ran
  rw [run_getByEmail] at looked
  obtain ⟨owned, rfl⟩ := Prod.mk.inj looked
  cases owner with
  | none => cases rest; exact .inl rfl
  | some user =>
    simp only [run_ite, run_pure] at rest
    split at rest
    · obtain ⟨raw, middle, issues, rest⟩ := run_bind_ok rest
      rw [run_addTask] at rest
      cases rest
      have address : server.working.address user.id = some (user.email, user.isVerified) := by
        simp [Database.address, find_of_getByEmail owned]
      obtain ⟨row, issued⟩ := issued_of_issue issues [.passwordReset user.email raw] rfl nofun
        (fun _ => ⟨_, address⟩) nofun
      exact .inr ⟨row, user.email, issued⟩
    · cases rest
      exact .inl rfl

theorem requestEmailChange_ok {user : User T} {newEmail password : String}
    (ran : (requestEmailChange env user newEmail password).run handle server = (.ok (), final)) :
    ∃ row recipient, Issued env server.mail final.mail row recipient
      (env.tokenUrlsafe server.draws) ∧ server.draws < final.draws := by
  simp only [requestEmailChange, throw_bind, run_ite, run_bind, run_view, run_throw] at ran
  split at ran
  · cases ran
  split at ran
  · cases ran
  split at ran
  · cases ran
  split at ran
  next raw middle issues =>
    rw [run_addTask] at ran
    cases ran
    obtain ⟨row, issued⟩ := issued_of_issue issues [.emailChange (env.lower newEmail) raw] rfl
      Purpose.noConfusion Purpose.noConfusion fun _ => rfl
    exact ⟨row, _, issued⟩
  next => cases ran

end

/-! ## Redeeming -/

variable (env) in
/-- What a route that redeems a token does to the token's user. -/
def OpenRoute.grants (route : OpenRoute) (token : EmailToken T) (salt : ℕ) (user : User T) : User T :=
  match route with
  | .verifyEmail _ => { user with isVerified := true }
  | .resetPassword _ newPassword => { user with hashedPassword := env.hashPassword salt newPassword }
  | .confirmEmailChange _ =>
    { user with email := token.newEmail.getD user.email, isVerified := true }
  | .forgotPassword _ | .oauthAuthorize _ => user

theorem OpenRoute.grants_id (route : OpenRoute) (token : EmailToken T) (salt : ℕ) (user : User T) :
    (route.grants env token salt user).id = user.id := by
  cases route <;> rfl

variable (env) in
/-- The database once a token has been used up for what the route grants. -/
def Database.redeemed (db : Database T) (route : OpenRoute) (token : EmailToken T) (salt : ℕ)
    (now : T) : Database T :=
  { db with
    emailTokens := useToken db.emailTokens token.tokenHash now
    users := db.users.modify token.userId (route.grants env token salt) (route.grants_id token salt) }

section
variable [CommRing T] [LinearOrder T] {server final : Server T}

/-- The token that `_consume` accepts is used up. -/
theorem consume_ok {raw : String} {purpose : Purpose} {token : EmailToken T}
    (ran : (consume env raw purpose).run handle server = (.ok token, final)) :
    ∃ stored, server.working.emailTokens.find (env.sha256Hex raw) = some stored ∧
      stored.Valid purpose server.clock ∧ token = stored.used server.clock ∧
      final = { server with working := { server.working with
        emailTokens := useToken server.working.emailTokens stored.tokenHash server.clock } } := by
  simp only [consume, throw_bind, run_bind, run_view] at ran
  split at ran
  next => cases ran
  next stored found =>
    simp only [run_ite, run_throw, run_bind, run_now, run_write] at ran
    split at ran
    · cases ran
    next accepted =>
      split at ran
      · cases ran
      next unexpired =>
        rw [not_or, not_not] at accepted
        split at ran
        next inserting =>
          split at inserting
          next written =>
            cases inserting
            obtain ⟨_, -, rfl⟩ := Database.updateEmailToken_ok written
            cases ran
            refine ⟨stored, found, ⟨accepted.1, ?_, lt_of_not_ge unexpired⟩, rfl, rfl⟩
            simpa using accepted.2
          next => cases inserting
        next => cases ran

variable (env) in
/-- The run redeems the token for what the route grants. -/
structure Redeems (route : OpenRoute) (purpose : Purpose) (raw : String) (server final : Server T)
    (token : EmailToken T) : Prop where
  found : server.working.emailTokens.find (env.sha256Hex raw) = some token
  valid : token.Valid purpose server.clock
  user : (server.working.users.find token.userId).isSome
  newEmail : purpose = .changeEmail → token.newEmail.isSome
  working : ∃ salt, final.working = server.working.redeemed env route token salt server.clock
  letters : final.tasks.filterMap Mail.letter = server.tasks.filterMap Mail.letter

omit [CommRing T] in
/-- Before it, nothing has been written to the database. -/
theorem Redeems.after {route : OpenRoute} {purpose : Purpose} {raw : String} {start : Server T}
    {token : EmailToken T} (redeems : Redeems env route purpose raw server final token)
    (same : server.working = start.working) (beside : start.Beside server) :
    Redeems env route purpose raw start final token where
  found := same ▸ redeems.found
  valid := beside.clock ▸ redeems.valid
  user := same ▸ redeems.user
  newEmail := redeems.newEmail
  working := by
    rw [← same, ← beside.clock]
    exact redeems.working
  letters := redeems.letters.trans (congrArg MailState.letters beside.mail)

omit [CommRing T] [LinearOrder T] in
/-- The statement that follows on a consumed token. -/
theorem updateUser_redeemed {route : OpenRoute} {token : EmailToken T} {user : User T} {salt : ℕ}
    {db working : Database T} {now : T} {change : User T → User T} {keeps}
    (found : db.users.find token.userId = some user)
    (grants : change = route.grants env token salt)
    (changed : Database.updateUser user.id change keeps
      { db with emailTokens := useToken db.emailTokens token.tokenHash now } = .ok working) :
    working = db.redeemed env route token salt now := by
  obtain ⟨_, -, -, -, rfl⟩ := Database.updateUser_ok changed
  subst grants
  rw [Database.redeemed, ← Table.find_key found]

theorem verifyEmail_ok {raw : String}
    (ran : (EmailAccountService.verifyEmail env raw).run handle server = (.ok (), final)) :
    ∃ token, Redeems env (.verifyEmail raw) .verifyEmail raw server final token := by
  obtain ⟨_, middle, consumed, rest⟩ := run_bind_ok ran
  obtain ⟨token, found, valid, rfl, rfl⟩ := consume_ok consumed
  simp only [run_bind, run_view] at rest
  split at rest
  next => cases rest
  next user foundUser =>
    rw [run_write] at rest
    split at rest
    next working changed =>
      cases rest
      have known : server.working.users.find token.userId = some user := foundUser
      refine ⟨token, found, valid, by simp [known], Purpose.noConfusion, ⟨0, ?_⟩, rfl⟩
      exact updateUser_redeemed known rfl changed
    next => cases rest

theorem validatePasswordStrength_ok {password : String}
    (ran : (validatePasswordStrength env password).run handle server = (.ok (), final)) :
    final = server := by
  simp only [validatePasswordStrength, throw_bind, run_ite, run_throw, run_pure] at ran
  split at ran
  · cases ran
  · split at ran <;> cases ran
    rfl

theorem resetPassword_ok {raw newPassword : String}
    (ran : (EmailAccountService.resetPassword env raw newPassword).run handle server =
      (.ok (), final)) :
    ∃ token, Redeems env (.resetPassword raw newPassword) .resetPassword raw server final token := by
  obtain ⟨_, checked, strong, rest⟩ := run_bind_ok ran
  cases validatePasswordStrength_ok strong
  obtain ⟨_, middle, consumed, rest⟩ := run_bind_ok rest
  obtain ⟨token, found, valid, rfl, rfl⟩ := consume_ok consumed
  simp only [run_bind, run_view] at rest
  split at rest
  next => cases rest
  next user foundUser =>
    simp only [run_bind, run_uuid4, run_write, run_addTask] at rest
    split at rest
    next done written =>
      split at written
      next working changed =>
        cases written
        cases rest
        have known : server.working.users.find token.userId = some user := foundUser
        refine ⟨token, found, valid, by simp [known], Purpose.noConfusion, ⟨server.draws, ?_⟩, ?_⟩
        · exact updateUser_redeemed known rfl changed
        · simp [Mail.letter]
      next => cases written
    next => cases rest

theorem confirmEmailChange_ok {raw : String}
    (ran : (EmailAccountService.confirmEmailChange env raw).run handle server = (.ok (), final)) :
    ∃ token, Redeems env (.confirmEmailChange raw) .changeEmail raw server final token := by
  obtain ⟨_, middle, consumed, rest⟩ := run_bind_ok ran
  obtain ⟨token, found, valid, rfl, rfl⟩ := consume_ok consumed
  simp only [run_bind, run_view, throw_bind] at rest
  split at rest
  next user newEmail foundUser named =>
    rw [run_ite, run_throw] at rest
    split at rest
    · cases rest
    · rw [run_write] at rest
      split at rest
      next working changed =>
        cases rest
        have known : server.working.users.find token.userId = some user := foundUser
        have named : token.newEmail = some newEmail := named
        refine ⟨token, found, valid, by simp [known], by simp [named], ⟨0, ?_⟩, rfl⟩
        refine updateUser_redeemed known ?_ changed
        funext user
        simp [OpenRoute.grants, named]
      next => cases rest
  next => cases rest

omit [CommRing T] in
/-- A redeemed token, seen from the mail flows. -/
theorem Redeems.redeemed {route : OpenRoute} {purpose : Purpose} {raw : String}
    {token : EmailToken T} (redeems : Redeems env route purpose raw server final token)
    (grants : route.redeems = some (purpose, raw)) :
    Redeemed env server.clock server.mail final.mail purpose raw token := by
  obtain ⟨found, valid, known, newEmail, ⟨salt, working⟩, letters⟩ := redeems
  refine ⟨found, valid, newEmail, ?_, ?_, letters⟩
  · simp only [Server.mail, working, Database.redeemed, Table.find_key found]
  · funext userId
    simp only [Server.mail, working, Database.redeemed, Database.address, Table.find_modify,
      Function.update_apply]
    split
    next same =>
      subst same
      rw [Option.map_map, Option.map_map]
      congr 1
      funext user
      cases route with
      | verifyEmail | resetPassword | confirmEmailChange =>
        cases grants
        simp [OpenRoute.grants, EmailToken.proves, valid.purpose]
      | forgotPassword | oauthAuthorize => cases grants
    next => rfl

/-! ## The open routes -/

theorem checkSchema_ok {accepted : Bool}
    (ran : (checkSchema accepted).run handle server = (.ok (), final)) : final = server := by
  rw [checkSchema, run_ite] at ran
  split at ran <;> cases ran
  rfl

variable {request : HttpRequest} {registry : String → Option Provider}

theorem serveOpen_redeems {route : OpenRoute} {purpose : Purpose} {raw : String} {page : Page T}
    (grants : route.redeems = some (purpose, raw))
    (ran : (serveOpen env registry request route).run handle server = (.ok page, final)) :
    ∃ token, Redeems env route purpose raw server final token := by
  cases route with
  | verifyEmail token =>
    cases grants
    simp only [serveOpen, EnterpriseAuth.verifyEmail] at ran
    obtain ⟨_, middle, checked, rest⟩ := run_bind_ok ran
    cases checkSchema_ok checked
    obtain ⟨_, last, verified, done⟩ := run_bind_ok rest
    cases done
    exact verifyEmail_ok verified
  | resetPassword token newPassword =>
    cases grants
    simp only [serveOpen, EnterpriseAuth.resetPassword] at ran
    obtain ⟨_, limited, limits, rest⟩ := run_bind_ok ran
    obtain ⟨_, middle, checked, rest⟩ := run_bind_ok rest
    cases checkSchema_ok checked
    obtain ⟨_, last, reset, done⟩ := run_bind_ok rest
    cases done
    obtain ⟨stored, redeems⟩ := resetPassword_ok reset
    exact ⟨stored, redeems.after (Within.of_exact .reads limits).working (beside_of_run limits)⟩
  | confirmEmailChange token =>
    cases grants
    simp only [serveOpen, EnterpriseAuth.confirmEmailChange] at ran
    obtain ⟨_, middle, checked, rest⟩ := run_bind_ok ran
    cases checkSchema_ok checked
    obtain ⟨_, last, confirmed, done⟩ := run_bind_ok rest
    cases done
    exact confirmEmailChange_ok confirmed
  | forgotPassword | oauthAuthorize => cases grants

/-! ## Every route -/

variable (env) in
/-- What a run on behalf of the request does to the mail flows. -/
abbrev Server.Mails (server : Server T) (arrival : Arrival) (final : Server T) : Prop :=
  MailOutcome env arrival server.clock server.draws final.draws server.mail final.mail

variable {arrival : Arrival}

omit [CommRing T] in
/-- What happens beside the mail flows does not matter to them. -/
theorem Server.Mails.between {start last : Server T} (mails : server.Mails env arrival final)
    (first : start.Beside server) (second : final.Beside last) : start.Mails env arrival last := by
  unfold Server.Mails at mails ⊢
  rw [second.mail, ← first.mail, ← first.clock]
  cases mails with
  | kept same => exact .kept same
  | issued enrolls drawn since upTo issued =>
    exact .issued enrolls drawn (first.draws.trans since) (upTo.trans_le second.draws) issued
  | enrolled reports enrolled => exact .enrolled reports enrolled
  | redeemed redeems redeemed => exact .redeemed redeems redeemed

omit [CommRing T] in
theorem Server.Mails.beside (beside : server.Beside final) : server.Mails env arrival final :=
  .kept beside.mail

omit [CommRing T] [LinearOrder T] in
theorem Server.Beside.refl (server : Server T) : server.Beside server := ⟨rfl, rfl, le_rfl⟩

omit [CommRing T] in
theorem Server.Mails.of_issued {row : EmailToken T} {recipient : String}
    (issued : Issued env server.mail final.mail row recipient (env.tokenUrlsafe server.draws))
    (last : server.draws < final.draws) : server.Mails env arrival final :=
  .issued (.inl rfl) rfl le_rfl last issued

theorem mails_serveOpen {route : OpenRoute} (routed : arrival.route = .openTo route) {page : Page T}
    (ran : (serveOpen env registry request route).run handle server = (.ok page, final)) :
    server.Mails env arrival final := by
  cases grants : route.redeems with
  | some redeems =>
    obtain ⟨token, redeems⟩ := serveOpen_redeems grants ran
    exact .redeemed (by rw [routed]; exact grants) (redeems.redeemed grants)
  | none =>
    cases route with
    | verifyEmail | resetPassword | confirmEmailChange => cases grants
    | oauthAuthorize provider =>
      have conducts : Conducts .mailless
          (serveOpen env registry request (.oauthAuthorize provider)) := by
        simp only [serveOpen, oauthAuthorize]; infer_instance
      exact .beside (beside_of_run ran)
    | forgotPassword email =>
      simp only [serveOpen, forgotPassword] at ran
      obtain ⟨_, limited, limits, rest⟩ := run_bind_ok ran
      obtain ⟨email, checked, accepted, rest⟩ := run_bind_ok rest
      obtain ⟨_, last, requested, done⟩ := run_bind_ok rest
      cases done
      have before := (beside_of_run limits).trans (beside_of_run accepted)
      rcases requestPasswordReset_ok requested with same | ⟨row, recipient, issued, last⟩
      · exact .kept (same.trans before.mail)
      · exact (Server.Mails.of_issued issued last).between before (.refl _)

/-- The context of a request holds its user as stored. -/
theorem getAuthContext_user {context : AuthContext T}
    (ran : (getAuthContext env request).run handle server = (.ok context, final)) :
    server.working.users.find context.user.id = some context.user := by
  simp only [getAuthContext, throw_bind] at ran
  split at ran
  next => cases ran
  next token _ =>
    obtain ⟨payload, verified, verifies, rest⟩ := run_bind_ok ran
    have same : verified.working = server.working := (Within.of_exact .reads verifies).working
    simp only [run_bind, run_view, same] at rest
    split at rest
    next => cases rest
    next user found =>
      have known : server.working.users.find user.id = some user := by
        rwa [show user.id = payload.sub from Table.find_key found]
      rw [run_ite] at rest
      split at rest
      · cases rest
      · split at rest
        · cases rest
          exact known
        · obtain ⟨active, touched, validated, done⟩ := run_bind_ok rest
          cases done
          exact known

theorem mails_serveProtected {route : ProtectedRoute} {page : Page T}
    (ran : (serveProtected env registry request route).run handle server = (.ok page, final)) :
    server.Mails env arrival final := by
  have served {start : Server T} (ran : (getAuthContext env request >>= fun context =>
      serveWithContext env registry request context route).run handle start = (.ok page, final)) :
      start.Mails env arrival final := by
    obtain ⟨context, entered, enters, rest⟩ := run_bind_ok ran
    have before := beside_of_run enters
    have address : entered.mail.address context.user.id =
        some (context.user.email, context.user.isVerified) := by
      rw [before.mail]
      simp [Server.mail, Database.address, getAuthContext_user enters]
    cases sends : route.sendsTokens with
    | false =>
      have conducts : Conducts .mailless (serveWithContext env registry request context route) :=
        conducts_serveWithContext env registry request context (fun _ => trivial) (by simp [sends])
          fun _ => trivial
      exact .beside (before.trans (beside_of_run rest))
    | true =>
      cases route with
      | resendVerification =>
        simp only [serveWithContext, resendVerification] at rest
        obtain ⟨_, last, resent, done⟩ := run_bind_ok rest
        cases done
        obtain ⟨row, issued, last⟩ := resendVerification_ok resent address
        exact (Server.Mails.of_issued issued last).between before (.refl _)
      | changeEmail newEmail password =>
        simp only [serveWithContext, changeEmail] at rest
        obtain ⟨email, checked, accepted, rest⟩ := run_bind_ok rest
        obtain ⟨_, fits, schema, rest⟩ := run_bind_ok rest
        obtain ⟨_, last, requested, done⟩ := run_bind_ok rest
        cases done
        have before := before.trans ((beside_of_run accepted).trans (beside_of_run schema))
        obtain ⟨row, recipient, issued, last⟩ := requestEmailChange_ok requested
        exact (Server.Mails.of_issued issued last).between before (.refl _)
      | _ => cases sends
  -- a CSRF check before authentication leaves the mails as they are
  rw [serveProtected, run_ite] at ran
  split at ran
  · obtain ⟨_, checked, csrf, rest⟩ := run_bind_ok ran
    exact (served rest).between (beside_of_run csrf) (.refl _)
  · exact served ran

omit [CommRing T] [LinearOrder T] in
/-- A new user has an id that nobody had. -/
theorem enrolled_of_insertUser {user : User T} {working : Database T}
    (inserted : Database.insertUser user server.working = .ok working)
    (changed : final.working.users = working.users)
    (tokens : final.working.emailTokens = working.emailTokens)
    (tasks : final.tasks = server.tasks) :
    Enrolled server.mail final.mail user.id user.email user.isVerified := by
  obtain ⟨-, -, users, added, rfl⟩ := Database.insertUser_ok inserted
  refine ⟨?_, ?_, tokens, by simp [Server.mail, tasks]⟩
  · simp [Server.mail, Database.address, (Table.insert_eq_some added).1]
  · funext userId
    simp only [Server.mail, Database.address, changed, Table.find_insert added, Function.update_apply]
    split <;> rfl

theorem register_ok {email password fullName : String} {user : User T}
    (ran : (AuthService.register env email password fullName).run handle server =
      (.ok user, final)) :
    Enrolled server.mail final.mail user.id user.email false := by
  simp only [AuthService.register, throw_bind] at ran
  obtain ⟨_, checked, strong, rest⟩ := run_bind_ok ran
  cases validatePasswordStrength_ok strong
  simp only [run_bind, run_view, run_ite, run_throw, run_uuid4, run_addUser] at rest
  split at rest
  · cases rest
  · split at rest
    next working inserted =>
      cases rest
      exact enrolled_of_insertUser inserted rfl rfl rfl
    next => cases rest

/-- The callback enrolls a user at most, with what the provider says of the address. -/
theorem handleCallback_ok {provider code state : String} {result : User T × OAuthMode}
    (routed : arrival.route = .login (.oauthCallback provider code state))
    (ran : (OAuthService.handleCallback env arrival.registry provider code state).run handle server =
      (.ok result, final)) : server.Mails env arrival final := by
  obtain ⟨payload, info, input, outcome⟩ :=
    (triple_handleCallback env server arrival.registry provider code state).returned rfl ran
  cases outcome with
  | linked => exact .kept rfl
  | joined unlinked claimant inserted =>
    obtain ⟨-, -, accounts, -, rfl⟩ := Database.insertOAuthAccount_ok inserted
    exact .kept rfl
  | @created email middle working unlinked mode address given unowned insertedUser insertedAccount =>
    obtain ⟨configured, token, known, exchanged, fetched⟩ := input.answers
    have reports : arrival.Reports email info.emailVerified :=
      ⟨provider, code, state, configured, _, token, info, routed, known, exchanged, fetched, address,
        rfl⟩
    obtain ⟨-, -, accounts, -, rfl⟩ := Database.insertOAuthAccount_ok insertedAccount
    let resolved : Server T := { server.popped state with
      working := { middle with oauthAccounts := accounts } }
    have enrolled : Enrolled (server.popped state).mail resolved.mail _ _ _ :=
      enrolled_of_insertUser insertedUser rfl rfl rfl
    exact .enrolled reports enrolled

variable [FloorRing T]

theorem mails_serveLogin {route : LoginRoute} (routed : arrival.route = .login route)
    {reply : LoginReply T}
    (ran : (serveLogin env arrival.registry arrival.http route).run handle server =
      (.ok reply, final)) :
    server.Mails env arrival final := by
  cases route with
  | login | loginOtp | loginRecoveryCode =>
    simp only [serveLogin] at ran
    exact .beside (beside_of_run ran)
  | register payload =>
    simp only [serveLogin, register] at ran
    obtain ⟨_, limited, limits, rest⟩ := run_bind_ok ran
    obtain ⟨email, checked, accepted, rest⟩ := run_bind_ok rest
    obtain ⟨_, fits, schema, rest⟩ := run_bind_ok rest
    obtain ⟨user, registered, registers, rest⟩ := run_bind_ok rest
    obtain ⟨answer, loggedIn, logsIn, rest⟩ := run_bind_ok rest
    obtain ⟨_, last, signedUp, done⟩ := run_bind_ok rest
    cases done
    have before := (beside_of_run limits).trans ((beside_of_run accepted).trans (beside_of_run schema))
    have after := beside_of_run logsIn
    have enrolled := register_ok registers
    rw [← after.mail, before.mail] at enrolled
    have address : loggedIn.mail.address user.id = some (user.email, false) := by
      rw [enrolled.address, Function.update_self]
    obtain ⟨row, issued, upTo⟩ := sendSignupEmails_ok signedUp address
    -- the mailed token is drawn in this request
    have since := before.draws.trans ((draws_of_run registers).trans after.draws)
    exact .issued (.inr ⟨user.id, user.email, enrolled⟩) rfl since upTo issued
  | oauthCallback provider code state =>
    simp only [serveLogin, oauthCallback] at ran
    obtain ⟨⟨user, mode⟩, resolved, resolves, rest⟩ := run_bind_ok ran
    have mails := handleCallback_ok routed resolves
    dsimp only at rest
    rw [run_ite] at rest
    split at rest
    · cases rest
      exact mails
    · exact mails.between (.refl _) (beside_of_run rest)

theorem mails_dispatch {reply : Reply T}
    (ran : (dispatch env arrival).run handle server = (.ok reply, final)) :
    server.Mails env arrival final := by
  cases routed : arrival.route with
  | login route =>
    simp only [dispatch, routed] at ran
    obtain ⟨answer, served, -⟩ := run_map_ok ran
    exact mails_serveLogin routed served
  | refresh =>
    simp only [dispatch, routed] at ran
    exact .beside (beside_of_run ran)
  | logout =>
    simp only [dispatch, routed] at ran
    exact .beside (beside_of_run ran)
  | openTo route =>
    simp only [dispatch, routed] at ran
    obtain ⟨page, served, -⟩ := run_map_ok ran
    exact mails_serveOpen routed served
  | withAccess route =>
    simp only [dispatch, routed] at ran
    obtain ⟨page, served, -⟩ := run_map_ok ran
    exact mails_serveProtected served

end

end EnterpriseAuth
