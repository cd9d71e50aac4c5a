import EnterpriseAuth.Effects.Coupling
import EnterpriseAuth.Requests.Calls
import EnterpriseAuth.Requests.Lockout
import EnterpriseAuth.Requests.MailedTokens
import EnterpriseAuth.Guarantees.Scenario

/-!
# Accounts do not show

Two worlds in which one user exists or not answer failing logins and requests for a reset of a
password alike: the counters and locks in Redis are kept for addresses, and what is looked up under
an address decides nothing that a client is told.
-/

namespace EnterpriseAuth

open Effects Program EmailAccountService

variable {T : Type} (env : Environment T)

/-! ## One user less -/

/-- The users of a deployment, with one whose address nobody else has. -/
structure Named where
  users : Table (User.id (T := T))
  user : User T
  stored : users.find user.id = some user
  named : ∀ other ∈ users.rows, env.sqlLower other.email = env.sqlLower user.email →
    other.id = user.id

/-- The users without the one. -/
def Named.others (deployment : Named env) : Table (User.id (T := T)) :=
  deployment.users.removeWhere fun other => other.id = deployment.user.id

variable {env}

theorem Named.owner (deployment : Named env) {db : Database T} (users : db.users = deployment.users)
    {email : String} (isNamed : env.sqlLower deployment.user.email = env.lower email) :
    db.usersByEmail env email = [deployment.user] := by
  have all : ∀ other ∈ db.usersByEmail env email, other = deployment.user := by
    intro other member
    obtain ⟨stored, address⟩ := List.mem_filter.mp member
    rw [users] at stored
    have same := deployment.named other stored ((beq_iff_eq.mp address).trans isNamed.symm)
    have found := Table.find_of_mem stored
    rw [same, deployment.stored] at found
    exact (Option.some.inj found).symm
  have member : deployment.user ∈ db.usersByEmail env email := by
    refine List.mem_filter.mpr ⟨?_, beq_iff_eq.mpr isNamed⟩
    rw [users]
    exact Table.find_mem deployment.stored
  have distinct : (db.usersByEmail env email).Nodup := (List.Nodup.of_map _ db.users.distinct).filter _
  rw [List.eq_replicate_of_mem all] at distinct member ⊢
  have length := List.nodup_replicate.mp distinct
  have positive := List.length_pos_of_mem member
  rw [List.length_replicate] at positive
  rw [show (db.usersByEmail env email).length = 1 by omega]
  rfl

/-- Whoever is looked up is found in both databases or in none, or is the one user. -/
theorem Named.getByEmail (deployment : Named env) {present absent : Database T}
    (users : present.users = deployment.users) (others : absent.users = deployment.others)
    (email : String) :
    absent.getByEmail env email = present.getByEmail env email ∨
      present.getByEmail env email = .ok (some deployment.user) ∧
        absent.getByEmail env email = .ok none := by
  have selected : absent.usersByEmail env email =
      (present.usersByEmail env email).filter fun other => other.id ≠ deployment.user.id := by
    rw [Database.usersByEmail, Database.usersByEmail, others, users, List.filter_comm]
    simp [Named.others, Table.removeWhere]
  by_cases isNamed : env.sqlLower deployment.user.email = env.lower email
  · have owner := deployment.owner users isNamed
    rw [owner] at selected
    refine .inr ⟨by simp [Database.getByEmail, owner], by simp [Database.getByEmail, selected]⟩
  · have same : absent.usersByEmail env email = present.usersByEmail env email := by
      rw [selected]
      refine List.filter_eq_self.mpr fun other member => decide_eq_true fun same => isNamed ?_
      obtain ⟨stored, address⟩ := List.mem_filter.mp member
      have found := Table.find_of_mem stored
      rw [users, same, deployment.stored] at found
      rw [Option.some.inj found]
      exact beq_iff_eq.mp address
    exact .inl (by rw [Database.getByEmail, Database.getByEmail, same])

/-! ## Twin servers -/

/-- The users as committed and as the transaction sees them. -/
structure Server.HasUsers (server : Server T) (users : Table (User.id (T := T))) : Prop where
  committed : server.committed.users = users
  working : server.working.users = users

/-- The next token that is drawn is stored under no hash yet, and its hash fits the column. -/
def Server.nextTokenNew (env : Environment T) (server : Server T) : Bool :=
  let hash := env.sha256Hex (env.tokenUrlsafe server.draws)
  (server.working.emailTokens.find hash).isNone && fitsColumn 64 hash

/-- The servers agree on the time and on Redis, and differ in the one user. -/
structure Named.Twins (deployment : Named env) (left right : Server T) : Prop where
  redis : right.redis = left.redis
  clock : right.clock = left.clock
  users : left.HasUsers deployment.users
  others : right.HasUsers deployment.others

/-- Twins on which a token can be issued. -/
structure Named.ReadyTwins (deployment : Named env) (left right : Server T) : Prop extends
    deployment.Twins left right where
  newLeft : left.nextTokenNew env = true
  newRight : right.nextTokenNew env = true

/-- The command neither looks at the database nor writes it, and draws nothing. -/
def Command.Blind : Command T → Prop
  | .view | .write _ | .draw => False
  | .now | .redis _ | .commit | .addTask _ => True

instance : Admits (T := T) Command.Blind .commit := ⟨trivial⟩
instance (key : Key) : Opens (T := T) Command.Blind key := ⟨fun _ _ => trivial⟩

variable [CommRing T] [LinearOrder T] {deployment : Named env}

/-- What looks at the time and at Redis only runs alike on twin servers. -/
theorem Named.Twins.blind {left right : Server T} (twins : deployment.Twins left right)
    {command : Command T} (blind : command.Blind) :
    (handle command right).1 = (handle command left).1 ∧
      deployment.Twins (handle command left).2 (handle command right).2 := by
  cases command with
  | now => exact ⟨congrArg Except.ok twins.clock, twins⟩
  | redis command =>
    simp only [handle, twins.redis, twins.clock, true_and]
    exact ⟨rfl, rfl, ⟨twins.users.1, twins.users.2⟩, ⟨twins.others.1, twins.others.2⟩⟩
  | commit =>
    exact ⟨rfl, twins.redis, twins.clock, ⟨twins.users.working, twins.users.working⟩,
      ⟨twins.others.working, twins.others.working⟩⟩
  | addTask mail =>
    exact ⟨rfl, twins.redis, twins.clock, ⟨twins.users.1, twins.users.2⟩,
      ⟨twins.others.1, twins.others.2⟩⟩
  | view | write | draw => exact blind.elim

theorem nextTokenNew_of_blind {command : Command T} (blind : command.Blind) (server : Server T) :
    (handle command server).2.nextTokenNew env = server.nextTokenNew env := by
  cases command with
  | now | redis | commit | addTask => rfl
  | view | write | draw => exact blind.elim

theorem coupled_blind {α : Type} (program : App T α) [calls : Calls Command.Blind program] :
    Coupled handle deployment.Twins program deployment.Twins fun _ => True :=
  calls.every.coupled fun _ _ _ blind twins => twins.blind blind

theorem coupled_ready {α : Type} (program : App T α) [calls : Calls Command.Blind program] :
    Coupled handle deployment.ReadyTwins program deployment.ReadyTwins fun _ => True := by
  refine calls.every.coupled fun command left right blind ready => ?_
  obtain ⟨reply, twins⟩ := ready.toTwins.blind blind
  refine ⟨reply, twins, ?_, ?_⟩
  · rw [nextTokenNew_of_blind blind, ready.newLeft]
  · rw [nextTokenNew_of_blind blind, ready.newRight]

/-! ## Failing logins -/

variable (env) in
/-- The password is wrong for the account that the address names, if there is one. -/
def Database.wrongPassword (db : Database T) (email password : String) : Bool :=
  match db.getByEmail env email with
  | .ok (some user) => !env.verifyPassword password user.hashedPassword
  | _ => true

variable (env) in
/-- The failure of a login has been counted. -/
def Server.loginFailed (server : Server T) (email ip : String) : Server T :=
  { server with
    draws := server.draws + 1
    redis := RateLimiter.recordedFailure env email (some ip) server.clock server.redis }

theorem run_authenticate_wrong {server : Server T} {email password ip : String}
    (wrong : server.working.wrongPassword env email password = true)
    (unlocked : (server.redis.lookup server.clock
      (RateLimiter.lockoutKey env email (some ip))).isSome = false) :
    (AuthService.authenticate env email password ip).run handle server =
      match server.working.getByEmail env email with
      | .error error => (.error error, server)
      | .ok _ => (.error (.auth "Invalid email or password."), server.loginFailed env email ip) := by
  simp only [AuthService.authenticate, throw_bind, run_bind, run_ensureNotLocked, unlocked,
    Bool.false_eq_true, if_false, run_getByEmail]
  unfold Database.wrongPassword at wrong
  cases looked : server.working.getByEmail env email with
  | error => rfl
  | ok found =>
    simp only [looked] at wrong
    cases found with
    | none => simp [run_recordFailure, Server.loginFailed]
    | some user =>
      have refused : env.verifyPassword password user.hashedPassword = false := by simpa using wrong
      simp [refused, run_recordFailure, Server.loginFailed]

omit [CommRing T] [LinearOrder T] in
theorem Database.wrongPassword_congr {db other : Database T} {email password : String}
    (same : other.getByEmail env email = db.getByEmail env email) :
    other.wrongPassword env email password = db.wrongPassword env email password := by
  simp only [wrongPassword, same]

omit [CommRing T] [LinearOrder T] in
theorem Database.getByEmail_congr {db other : Database T} (users : other.users = db.users)
    (email : String) : other.getByEmail env email = db.getByEmail env email := by
  simp only [getByEmail, usersByEmail, users]

/-- A failed login leaves twins. -/
theorem Named.Twins.loginFailed {left right : Server T} (twins : deployment.Twins left right)
    (email ip : String) :
    deployment.Twins (left.loginFailed env email ip) (right.loginFailed env email ip) where
  redis := by simp only [Server.loginFailed, twins.redis, twins.clock]
  clock := twins.clock
  users := ⟨twins.users.committed, twins.users.working⟩
  others := ⟨twins.others.committed, twins.others.working⟩

theorem run_authenticate_locked {server : Server T} {email password ip : String}
    (locked : (server.redis.lookup server.clock
      (RateLimiter.lockoutKey env email (some ip))).isSome = true) :
    (AuthService.authenticate env email password ip).run handle server =
      (.error .accountLocked, server) := by
  simp only [AuthService.authenticate, run_bind, run_ensureNotLocked, locked, if_true]

/-- A login with a wrong password fails alike, whether the account exists or not. -/
theorem coupled_authenticate {email password ip : String}
    (wrong : ∀ db : Database T, db.users = deployment.users →
      db.wrongPassword env email password = true) :
    Coupled handle deployment.Twins (AuthService.authenticate env email password ip)
      deployment.Twins fun _ => False := by
  refine .raises fun left right twins => ?_
  have sameLock : right.redis.lookup right.clock (RateLimiter.lockoutKey env email (some ip)) =
      left.redis.lookup left.clock (RateLimiter.lockoutKey env email (some ip)) := by
    rw [twins.redis, twins.clock]
  cases locked : (left.redis.lookup left.clock
      (RateLimiter.lockoutKey env email (some ip))).isSome with
  | true =>
    rw [run_authenticate_locked locked, run_authenticate_locked (by rw [sameLock]; exact locked)]
    exact ⟨_, rfl, rfl, twins⟩
  | false =>
    have looked := deployment.getByEmail twins.users.working twins.others.working email
    have wrongLeft := wrong left.working twins.users.working
    have wrongRight : right.working.wrongPassword env email password = true := by
      rcases looked with same | ⟨-, none⟩
      · rwa [Database.wrongPassword_congr same]
      · simp only [Database.wrongPassword, none]
    rw [run_authenticate_wrong wrongLeft locked,
      run_authenticate_wrong wrongRight (by rw [sameLock]; exact locked)]
    rcases looked with same | ⟨found, none⟩
    · rw [same]
      cases left.working.getByEmail env email with
      | error error => exact ⟨error, rfl, rfl, twins⟩
      | ok => exact ⟨_, rfl, rfl, twins.loginFailed email ip⟩
    · rw [found, none]
      exact ⟨_, rfl, rfl, twins.loginFailed email ip⟩

/-! ## Requests for a reset -/

theorem run_issue {server : Server T} {user : User T} (purpose : Purpose) (ttlSeconds : ℕ)
    (stored : server.working.users.find user.id = some user)
    (new : server.nextTokenNew env = true) :
    ∃ emailTokens, (issue env user purpose ttlSeconds none).run handle server =
      (.ok (env.tokenUrlsafe server.draws), { server with
        draws := server.draws + 1, working := { server.working with emailTokens } }) := by
  simp only [Server.nextTokenNew, Bool.and_eq_true, Option.isNone_iff_eq_none] at new
  let row := server.newToken env user.id purpose ttlSeconds none
  have fresh : (server.working.emailTokens.removeWhere fun token =>
      token.userId = user.id && token.purpose = purpose).find row.tokenHash = none := by
    rw [Table.find_removeWhere]
    simp [row, Server.newToken, new.1]
  obtain ⟨emailTokens, inserted⟩ := Table.insert_isSome fresh
  have known (emailTokens) :
      ({ server.working with emailTokens } : Database T).userExists user.id = true := by
    simp [Database.userExists, stored]
  refine ⟨emailTokens, ?_⟩
  simp only [issue, run_bind, run_write, Database.deleteEmailTokens, run_uuid4, run_now,
    Database.insertEmailToken, new.2, fitsNullable, Bool.and_self, Bool.not_true, known, run_pure]
  simp only [row, Server.newToken] at inserted
  simp [inserted]

/-- What a request for a reset comes to: nothing but the lookup of the address can fail. -/
theorem run_requestPasswordReset {server : Server T} (new : server.nextTokenNew env = true)
    (email : String) : ∃ draws emailTokens tasks,
      (requestPasswordReset env email).run handle server =
        match server.working.getByEmail env email with
        | .error error => (.error error, server)
        | .ok _ => (.ok (), { server with
            draws, tasks, working := { server.working with emailTokens } }) := by
  simp only [requestPasswordReset, run_bind, run_getByEmail]
  cases looked : server.working.getByEmail env email with
  | error => exact ⟨0, ∅, [], rfl⟩
  | ok found =>
    cases found with
    | none => exact ⟨server.draws, server.working.emailTokens, server.tasks, rfl⟩
    | some user =>
      cases active : user.isActive with
      | false =>
        refine ⟨server.draws, server.working.emailTokens, server.tasks, ?_⟩
        simp [active]
      | true =>
        have stored : server.working.users.find user.id = some user := find_of_getByEmail looked
        obtain ⟨emailTokens, issued⟩ := run_issue .resetPassword
          (env.settings.passwordResetExpireMinutes * 60) stored new
        let letter := Mail.passwordReset user.email (env.tokenUrlsafe server.draws)
        refine ⟨server.draws + 1, emailTokens, server.tasks ++ [letter], ?_⟩
        simp only [active, if_true, run_bind, issued, run_addTask, letter]

/-- A request for a reset is answered alike, whether the account exists or not. -/
theorem coupled_requestPasswordReset (email : String) :
    Coupled handle deployment.ReadyTwins (requestPasswordReset env email) deployment.Twins
      fun _ => True := by
  constructor
  intro left right ready
  have twins := ready.toTwins
  obtain ⟨draws, emailTokens, tasks, ran⟩ := run_requestPasswordReset ready.newLeft email
  obtain ⟨drawsRight, tokensRight, tasksRight, ranRight⟩ :=
    run_requestPasswordReset ready.newRight email
  have issued : deployment.Twins
      { left with draws, tasks, working := { left.working with emailTokens } }
      { right with
        draws := drawsRight, tasks := tasksRight
        working := { right.working with emailTokens := tokensRight } } :=
    ⟨twins.redis, twins.clock, ⟨twins.users.committed, twins.users.working⟩,
      ⟨twins.others.committed, twins.others.working⟩⟩
  rw [ran, ranRight]
  rcases deployment.getByEmail twins.users.working twins.others.working email with same | ⟨found, none⟩
  · rw [same]
    cases left.working.getByEmail env email with
    | error error => exact ⟨rfl, twins, fun _ _ => trivial⟩
    | ok => exact ⟨rfl, issued, fun _ _ => trivial⟩
  · rw [found, none]
    exact ⟨rfl, issued, fun _ _ => trivial⟩

/-! ## Requests -/

variable [FloorRing T]

variable (env) in
/-- The request is a login with a password that is wrong for the account it names, or it asks for a
reset of a password. -/
def World.probedBy (world : World T) (arrival : Arrival) : Bool :=
  match arrival.route with
  | .login (.login payload) =>
    match env.validEmail payload.email with
    | none => true
    | some email => world.db.wrongPassword env email payload.password
  | .openTo (.forgotPassword _) => true
  | _ => false

theorem coupled_login {http : HttpRequest} {payload : LoginRequest}
    (wrong : ∀ email (db : Database T), env.validEmail payload.email = some email →
      db.users = deployment.users → db.wrongPassword env email payload.password = true) :
    Coupled handle deployment.ReadyTwins (login env http payload) deployment.Twins fun _ => False := by
  have accepted : (checkEmail env payload.email).Every Command.Blind
      fun email => env.validEmail payload.email = some email := by
    unfold checkEmail
    split
    next => exact .throw _
    next email valid => exact .pure valid
  have checked : Coupled handle deployment.Twins (checkEmail env payload.email) deployment.Twins
      fun email => env.validEmail payload.email = some email :=
    accepted.coupled fun _ _ _ blind twins => twins.blind blind
  have limited : Coupled handle deployment.Twins (authRateLimit env http) deployment.Twins
      fun _ => True := coupled_blind _
  refine Coupled.enter ?_ fun _ _ ready => ready.toTwins
  refine limited.bind (fun _ _ => id) fun _ _ => checked.bind (fun _ _ => id) fun email valid => ?_
  have fits : Coupled handle deployment.Twins (checkSchema (lengthWithin payload.password 1 128))
      deployment.Twins fun _ => True := coupled_blind _
  refine fits.bind (fun _ _ => id) fun _ _ => ?_
  exact (coupled_authenticate fun db users => wrong email db valid users).bind (fun _ _ => id)
    fun _ => False.elim

omit [FloorRing T] in
theorem coupled_forgotPassword (http : HttpRequest) (email : String) :
    Coupled handle deployment.ReadyTwins (forgotPassword env http email) deployment.Twins
      fun _ => True := by
  have limited : Coupled handle deployment.ReadyTwins (emailRateLimit env http)
      deployment.ReadyTwins fun _ => True := coupled_ready _
  have checked : Coupled handle deployment.ReadyTwins (checkEmail env email) deployment.ReadyTwins
      fun _ => True := coupled_ready _
  refine limited.bind (fun _ _ ready => ready.toTwins) fun _ _ =>
    checked.bind (fun _ _ ready => ready.toTwins) fun email _ => ?_
  exact (coupled_requestPasswordReset email).bind (fun _ _ => id) fun _ _ => .pure trivial

theorem coupled_dispatch {world : World T} (users : world.db.users = deployment.users)
    {arrival : Arrival} (probed : world.probedBy env arrival = true) :
    Coupled handle deployment.ReadyTwins (dispatch env arrival) deployment.Twins fun _ => True := by
  unfold World.probedBy at probed
  split at probed
  next payload routed =>
    simp only [dispatch, routed, serveLogin]
    have failed : Coupled handle deployment.ReadyTwins (login env arrival.http payload)
        deployment.Twins fun _ => False := by
      refine coupled_login fun email db valid same => ?_
      rw [valid] at probed
      rwa [Database.wrongPassword_congr (Database.getByEmail_congr (same.trans users.symm) email)]
    exact failed.bind (fun _ _ => id) fun _ => False.elim
  next email routed =>
    simp only [dispatch, routed, serveOpen]
    exact (coupled_forgotPassword arrival.http email).map
  next => cases probed

theorem coupled_serve {world : World T} (users : world.db.users = deployment.users)
    {arrival : Arrival} (probed : world.probedBy env arrival = true) :
    Coupled handle deployment.ReadyTwins (serve env arrival) deployment.Twins fun _ => True := by
  have limited : Coupled handle deployment.ReadyTwins (rateLimitMiddleware env arrival.http)
      deployment.ReadyTwins fun _ => True := coupled_ready _
  have committed : Coupled handle deployment.Twins (commitAfterResponse : App T Unit)
      deployment.Twins fun _ => True := coupled_blind _
  refine limited.bind (fun _ _ ready => ready.toTwins) fun _ _ => ?_
  exact (coupled_dispatch users probed).bind (fun _ _ => id) fun _ _ =>
    committed.bind (fun _ _ => id) fun _ _ => .pure trivial

/-! ## Histories of requests -/

variable (env) in
/-- What the requests of the events are answered. -/
def World.replies (world : World T) : List (Event T) → List (Except AppError (Reply T))
  | [] => []
  | .request arrival :: events =>
    (world.exchange env arrival).reply :: (world.afterRequest env arrival).replies events
  | event :: events => (world.next env event).replies events

variable (env) in
/-- Time passes, and requests probe for accounts. -/
def World.probed (world : World T) : List (Event T) → Bool
  | [] => true
  | .tick instant :: events => (world.next env (.tick instant)).probed events
  | .request arrival :: events =>
    world.probedBy env arrival && (world.afterRequest env arrival).probed events
  | .setUserActive .. :: _ => false

variable (env) in
/-- The generator of tokens returns none that is stored already. -/
def World.drawsNewTokens (world : World T) : List (Event T) → Bool
  | [] => true
  | event :: events => world.server.nextTokenNew env && (world.next env event).drawsNewTokens events

theorem replies_alike {present absent : World T} (twins : deployment.Twins present.server absent.server)
    {events : List (Event T)} (probed : present.probed env events = true)
    (new : present.drawsNewTokens env events = true)
    (newAbsent : absent.drawsNewTokens env events = true) :
    absent.replies env events = present.replies env events := by
  induction events generalizing present absent with
  | nil => rfl
  | cons event events inductionHypothesis =>
    simp only [World.drawsNewTokens, Bool.and_eq_true] at new newAbsent
    cases event with
    | tick instant =>
      have later : deployment.Twins (present.next env (.tick instant)).server
          (absent.next env (.tick instant)).server :=
        ⟨twins.redis, rfl, ⟨twins.users.1, twins.users.2⟩, ⟨twins.others.1, twins.others.2⟩⟩
      exact inductionHypothesis later probed new.2 newAbsent.2
    | setUserActive => cases probed
    | request arrival =>
      simp only [World.probed, Bool.and_eq_true] at probed
      have coupled := coupled_serve twins.users.working probed.1
      obtain ⟨replies, after, -⟩ := coupled.runs _ _ ⟨twins, new.1, newAbsent.1⟩
      have later : deployment.Twins (present.afterRequest env arrival).server
          (absent.afterRequest env arrival).server :=
        ⟨after.redis, after.clock, ⟨after.users.1, after.users.1⟩, ⟨after.others.1, after.others.1⟩⟩
      simp only [World.replies]
      rw [inductionHypothesis later probed.2 new.2 newAbsent.2]
      exact congrArg (· :: _) replies

/-- The worlds differ in whether the one user exists, and in what other tables hold about users. -/
structure Named.Differ (deployment : Named env) (present absent : World T) : Prop where
  users : present.db.users = deployment.users
  others : absent.db.users = deployment.others
  redis : absent.redis = present.redis
  clock : absent.clock = present.clock

/-- Failing logins and requests for a reset are answered alike, whether the account exists or not. -/
theorem account_existence_hidden {present absent : World T} (differ : deployment.Differ present absent)
    {events : List (Event T)} (probed : present.probed env events = true)
    (new : present.drawsNewTokens env events = true)
    (newAbsent : absent.drawsNewTokens env events = true) :
    absent.replies env events = present.replies env events :=
  replies_alike ⟨differ.redis, differ.clock, ⟨differ.users, differ.users⟩,
    ⟨differ.others, differ.others⟩⟩ probed new newAbsent

/-! ## Alice -/

def registeredAlice : User ℚ where
  id := 1
  email := "alice@example.org"
  hashedPassword := "$Str0ng!pass"
  createdAt := 0

/-- Alice is the only user. -/
def onlyAlice : Named demo where
  users := ⟨[registeredAlice], List.nodup_singleton _⟩
  user := registeredAlice
  stored := rfl
  named := by simp

def withAlice : World ℚ := { World.new with db := { users := onlyAlice.users } }

def probe (email password : String) : Event ℚ :=
  .request { http := {}, route := .login (.login { email, password }) }

/-- Two resets, and enough logins to lock the pair out. -/
def aliceProbed : List (Event ℚ) :=
  [.request { http := {}, route := .openTo (.forgotPassword "alice@example.org") },
    probe "alice@example.org" "wrong", probe "alice@example.org" "wrong",
    probe "alice@example.org" "wrong", probe "alice@example.org" "wrong",
    probe "alice@example.org" "wrong", probe "alice@example.org" "wrong",
    .tick 1000,
    .request { http := {}, route := .openTo (.forgotPassword "alice@example.org") },
    probe "alice@example.org" "wrong", probe "bob@example.org" "wrong"]

theorem account_existence_hidden_of_alice :
    World.new.replies demo aliceProbed = withAlice.replies demo aliceProbed := by
  have differ : onlyAlice.Differ withAlice World.new := ⟨rfl, Table.ext rfl, rfl, rfl⟩
  exact account_existence_hidden differ (by decide +kernel) (by decide +kernel) (by decide +kernel)

end EnterpriseAuth
