import EnterpriseAuth.Guarantees.ResetTokens
import EnterpriseAuth.Requests.Passwords

/-!
# The password that was set last

The history of the service says which password a user has set last, by registering or by a reset.  The
stored hash is of that password, however often logins have hashed it anew, and whatever else the
service asks a password for is answered to that one only.
-/

namespace EnterpriseAuth

open Effects Program

variable {T : Type} {env : Environment T}

/-! ## The ledger of passwords -/

/-- The exchange has set the password of the user. -/
def Exchange.Sets (env : Environment T) (exchange : Exchange T) (userId : Uuid) (password : String) :
    Prop :=
  ∃ reply, exchange.reply = .ok reply ∧
    exchange.arrival.Sets env exchange.before.committed reply userId password

/-- The latest exchange that has set a password of the user has set this one. -/
inductive SetLast (env : Environment T) (userId : Uuid) (password : String) :
    List (Exchange T) → Prop
  | now {exchange : Exchange T} {history : List (Exchange T)}
    (sets : exchange.Sets env userId password) : SetLast env userId password (exchange :: history)
  | earlier {exchange : Exchange T} {history : List (Exchange T)}
    (spares : ∀ another, ¬ exchange.Sets env userId another)
    (last : SetLast env userId password history) : SetLast env userId password (exchange :: history)

def NeverSet (env : Environment T) (history : List (Exchange T)) (userId : Uuid) : Prop :=
  ∀ exchange ∈ history, ∀ password, ¬ exchange.Sets env userId password

/-- The callback of a provider has created the user. -/
structure Exchange.Enrolls (exchange : Exchange T) (userId : Uuid) : Prop where
  routed : ∃ provider code state, exchange.arrival.route = .login (.oauthCallback provider code state)
  fresh : exchange.before.committed.passwordHash userId = none
  stored : (exchange.after.committed.passwordHash userId).isSome

def FromProvider (history : List (Exchange T)) (userId : Uuid) : Prop :=
  ∃ exchange ∈ history, exchange.Enrolls userId

/-- Where the stored hash of a user comes from: the user has chosen the password, or has come from a
provider and never learnt it. -/
inductive HashOrigin (env : Environment T) (history : List (Exchange T)) (userId : Uuid) :
    String → Prop
  | chosen {password : String} (salt : ℕ) (set : SetLast env userId password history) :
    HashOrigin env history userId (env.hashPassword salt password)
  | random (salt draw : ℕ) (never : NeverSet env history userId)
    (came : FromProvider history userId) :
    HashOrigin env history userId (env.hashPassword salt (env.tokenUrlsafe draw))

/-- A hash is verified by no other password. -/
class Environment.HashesTellApart (env : Environment T) : Prop where
  same : ∀ salt password other, env.verifyPassword other (env.hashPassword salt password) = true →
    other = password

/-- All passwords that were set are of users, and all hashes have an origin. -/
structure PasswordLedger (env : Environment T) (history : List (Exchange T))
    (hashes : Uuid → Option String) : Prop where
  users : ∀ exchange ∈ history, ∀ userId password, exchange.Sets env userId password →
    (hashes userId).isSome
  origin : ∀ userId hash, hashes userId = some hash → HashOrigin env history userId hash

variable {history : List (Exchange T)} {exchange : Exchange T} {userId : Uuid}

theorem Exchange.Sets.unique {password another : String} {other : Uuid}
    (first : exchange.Sets env userId password) (second : exchange.Sets env other another) :
    other = userId ∧ another = password := by
  obtain ⟨reply, answered, sets⟩ := first
  obtain ⟨again, answeredAgain, setsAgain⟩ := second
  rw [answered] at answeredAgain
  cases answeredAgain
  exact Arrival.Sets.unique sets setsAgain

theorem SetLast.unique {password another : String} (first : SetLast env userId password history)
    (second : SetLast env userId another history) : another = password := by
  induction first with
  | now sets =>
    cases second with
    | now setsAgain => exact (sets.unique setsAgain).2
    | earlier spares => exact absurd sets (spares password)
  | earlier spares _ inductionHypothesis =>
    cases second with
    | now sets => exact absurd sets (spares another)
    | earlier _ last => exact inductionHypothesis last

theorem SetLast.not_never {password : String} (last : SetLast env userId password history) :
    ¬ NeverSet env history userId := by
  intro never
  induction last with
  | now sets => exact never _ List.mem_cons_self password sets
  | earlier _ _ inductionHypothesis =>
    exact inductionHypothesis fun other member => never other (List.mem_cons_of_mem _ member)

theorem NeverSet.cons (never : NeverSet env history userId)
    (spares : ∀ another, ¬ exchange.Sets env userId another) :
    NeverSet env (exchange :: history) userId := by
  intro other member
  rcases List.mem_cons.mp member with rfl | member
  · exact spares
  · exact never other member

theorem FromProvider.cons (came : FromProvider history userId) :
    FromProvider (exchange :: history) userId := by
  obtain ⟨earlier, member, enrolls⟩ := came
  exact ⟨earlier, List.mem_cons_of_mem _ member, enrolls⟩

theorem HashOrigin.cons {hash : String} (origin : HashOrigin env history userId hash)
    (spares : ∀ another, ¬ exchange.Sets env userId another) :
    HashOrigin env (exchange :: history) userId hash := by
  cases origin with
  | chosen salt set => exact .chosen salt (.earlier spares set)
  | random salt draw never came => exact .random salt draw (never.cons spares) came.cons

/-- A password that is verified against a hash may be hashed anew. -/
theorem HashOrigin.rehash [apart : env.HashesTellApart] {hash password : String}
    (origin : HashOrigin env history userId hash) (verified : env.verifyPassword password hash = true)
    (salt : ℕ) : HashOrigin env history userId (env.hashPassword salt password) := by
  cases origin with
  | chosen _ set =>
    cases apart.same _ _ _ verified
    exact .chosen salt set
  | random _ draw never came =>
    cases apart.same _ _ _ verified
    exact .random salt draw never came

variable {hashes : Uuid → Option String}

/-- An exchange that sets no password, and gives hashes of known origin to some user. -/
theorem PasswordLedger.plain (ledger : PasswordLedger env history hashes)
    (spares : ∀ other another, ¬ exchange.Sets env other another) {changed : Uuid → Option String}
    (kept : ∀ other, (hashes other).isSome → (changed other).isSome)
    (origin : ∀ other hash, changed other = some hash →
      hashes other = some hash ∨ HashOrigin env (exchange :: history) other hash) :
    PasswordLedger env (exchange :: history) changed where
  users other member someone password sets := by
    rcases List.mem_cons.mp member with rfl | member
    · exact absurd sets (spares someone password)
    · exact kept someone (ledger.users other member someone password sets)
  origin other hash stored := by
    rcases origin other hash stored with before | fresh
    · exact (ledger.origin other hash before).cons (spares other)
    · exact fresh

/-- An exchange that sets a password. -/
theorem PasswordLedger.set (ledger : PasswordLedger env history hashes) {password : String} (salt : ℕ)
    (sets : exchange.Sets env userId password)
    (only : ∀ other another, exchange.Sets env other another → other = userId) :
    PasswordLedger env (exchange :: history)
      (Function.update hashes userId (some (env.hashPassword salt password))) where
  users other member someone given setsOther := by
    rw [Function.update_apply]
    split
    · rfl
    next different =>
      rcases List.mem_cons.mp member with rfl | member
      · exact absurd (only someone given setsOther) different
      · exact ledger.users other member someone given setsOther
  origin other hash stored := by
    rw [Function.update_apply] at stored
    split at stored
    next same =>
      cases stored
      subst same
      exact .chosen salt (.now sets)
    next different =>
      exact (ledger.origin other hash stored).cons fun another setsOther =>
        different (only other another setsOther)

/-! ## Runs -/

variable [CommRing T] [LinearOrder T] [FloorRing T] {world : World T} {arrival : Arrival}

/-- An answered exchange leaves the hashes in one of the ways of its request. -/
theorem passwords_exchange {reply : Reply T} (answered : (world.exchange env arrival).reply = .ok reply) :
    PasswordOutcome env world.db arrival reply
      (world.exchange env arrival).after.committed.passwordHash := by
  obtain ⟨limited, final, passes, ran, left⟩ := exchange_answered answered
  have same : limited.working = world.db := (Within.of_exact .reads passes).working
  rw [left, ← same]
  exact passwords_dispatch ran

theorem PasswordLedger.afterRequest [env.HashesTellApart]
    (ledger : PasswordLedger env world.history world.db.passwordHash) :
    PasswordLedger env (world.afterRequest env arrival).history
      (world.afterRequest env arrival).db.passwordHash := by
  have spared (plain : arrival.route.setsPassword = false) (other : Uuid) (another : String) :
      ¬ (world.exchange env arrival).Sets env other another := by
    rintro ⟨reply, -, sets⟩
    have route : arrival.route.setsPassword = true := sets.route
    rw [plain] at route
    cases route
  change PasswordLedger env (world.exchange env arrival :: world.history)
    (world.exchange env arrival).after.committed.passwordHash
  cases replied : (world.exchange env arrival).reply with
  | error error =>
    have same := passwordHash_of_users (tables_of_error replied).1
    rw [same]
    refine ledger.plain ?_ (fun _ => id) fun _ _ => .inl
    rintro other another ⟨reply, answered, -⟩
    rw [replied] at answered
    cases answered
  | ok reply =>
    cases passwords_exchange replied with
    | kept plain same => exact same ▸ ledger.plain (spared plain) (fun _ => id) fun _ _ => .inl
    | @rehashed stored password salt plain found verified changed =>
      rw [changed]
      refine ledger.plain (spared plain) (fun other known => ?_) fun other hash given => ?_
      · rw [Function.update_apply]
        split
        · rfl
        · exact known
      · rw [Function.update_apply] at given
        split at given
        next same =>
          cases given
          have hashed : world.db.passwordHash other = some stored.hashedPassword := by
            rw [same, Database.passwordHash, found, Option.map_some]
          exact .inr (((ledger.origin _ _ hashed).rehash verified salt).cons (spared plain other))
        next => exact .inl given
    | @enrolled userId salt draw provider code state routed fresh changed =>
      have plain : arrival.route.setsPassword = false := by rw [routed]; rfl
      have enrolls : (world.exchange env arrival).Enrolls userId := by
        refine ⟨⟨provider, code, state, routed⟩, fresh, ?_⟩
        rw [changed, Function.update_self]
        rfl
      rw [changed]
      refine ledger.plain (spared plain) (fun other known => ?_) fun other hash given => ?_
      · rw [Function.update_apply]
        split
        · rfl
        · exact known
      · rw [Function.update_apply] at given
        split at given
        next same =>
          cases given
          -- nobody who is new has set a password
          have never : NeverSet env world.history other := fun exchange member password sets => by
            have known := ledger.users exchange member other password sets
            rw [same, fresh] at known
            cases known
          have came : FromProvider (world.exchange env arrival :: world.history) other :=
            ⟨_, List.mem_cons_self, same ▸ enrolls⟩
          exact .inr (.random salt draw (never.cons (spared plain other)) came)
        next => exact .inl given
    | @set userId password salt sets changed =>
      rw [changed]
      have setting : (world.exchange env arrival).Sets env userId password := ⟨reply, replied, sets⟩
      exact ledger.set salt setting fun other another setsOther => (setting.unique setsOther).1

theorem passwordLedger_of_reachable [env.HashesTellApart] (reachable : (deployed env).Reachable world) :
    PasswordLedger env world.history world.db.passwordHash := by
  refine System.Reachable.invariant
    (fun world => PasswordLedger env world.history world.db.passwordHash) reachable ?_ ?_
  · intro first fresh
    constructor
    · intro exchange member
      rw [fresh.noHistory] at member
      cases member
    · intro userId hash stored
      rw [Database.passwordHash, fresh.noUsers] at stored
      cases stored
  · intro before event after _ ledger step
    cases step with
    | tick => exact ledger
    | request => exact ledger.afterRequest
    | setUserActive id active =>
      have same :
          ({ before.db with users := before.db.users.modify id (fun user =>
            { user with isActive := active }) fun _ => rfl } : Database T).passwordHash =
            before.db.passwordHash := passwordHash_modifyOther fun _ => rfl
      exact same ▸ ledger

/-! ## What is known of a password -/

/-- A hash that is stored for a user who has set a password is the hash of the one set last. -/
theorem stored_hash_of_last_password [env.HashesTellApart] (reachable : (deployed env).Reachable world)
    {user : User T} (found : world.db.users.find userId = some user) {password : String}
    (last : SetLast env userId password world.history) :
    ∃ salt, user.hashedPassword = env.hashPassword salt password := by
  have hashed : world.db.passwordHash userId = some user.hashedPassword := by
    rw [Database.passwordHash, found, Option.map_some]
  have origin := (passwordLedger_of_reachable reachable).origin userId _ hashed
  generalize user.hashedPassword = hash at origin
  cases origin with
  | chosen salt set => exact ⟨salt, by rw [set.unique last]⟩
  | random _ _ never _ => exact absurd never last.not_never

/-- Whatever the service asks a password for, it is answered to the password that the user has set
last.  A user who has set none has come from a provider, and has a random one. -/
theorem password_shown_is_last [env.HashesTellApart] (reachable : (deployed env).Reachable world)
    {password : String} (shows : arrival.route.password = some password) {reply : Reply T}
    (answered : (world.exchange env arrival).reply = .ok reply) :
    ∃ user, arrival.VouchesFor env world.db user ∧
      (SetLast env user.id password world.history ∨
        NeverSet env world.history user.id ∧ FromProvider world.history user.id ∧
          ∃ salt draw, password = env.tokenUrlsafe draw ∧
            user.hashedPassword = env.hashPassword salt password) := by
  obtain ⟨limited, final, passes, ran, -⟩ := exchange_answered answered
  have same : limited.working = world.db := (Within.of_exact .reads passes).working
  obtain ⟨user, claims, verified⟩ := password_verified shows ran
  rw [same] at claims
  refine ⟨user, claims, ?_⟩
  have hashed : world.db.passwordHash user.id = some user.hashedPassword := by
    rw [Database.passwordHash, claims.stored, Option.map_some]
  have origin := (passwordLedger_of_reachable reachable).origin user.id _ hashed
  generalize user.hashedPassword = hash at verified origin
  cases origin with
  | chosen salt set => exact .inl (Environment.HashesTellApart.same _ _ _ verified ▸ set)
  | random salt draw never came =>
    have shown : password = env.tokenUrlsafe draw :=
      Environment.HashesTellApart.same _ _ _ verified
    exact .inr ⟨never, came, salt, draw, shown, by rw [shown]⟩

/-! ## Alice's passwords -/

instance : demo.HashesTellApart := by
  constructor
  intro salt password other verified
  have same : password = other := by simpa [demo] using verified
  exact same.symm

/-- Alice has registered with one password, and has reset it to another one. -/
def aliceReset : World ℚ := aliceForgets.afterRequest demo resetAlice

theorem reachable_aliceReset : (deployed demo).Reachable aliceReset :=
  System.Reachable.step (deployed_play (by decide +kernel)) (.request (by decide +kernel))

theorem setLast_aliceReset : SetLast demo 1 "0ther!Pass" aliceReset.history := by
  obtain ⟨reply, answered⟩ : ∃ reply, (aliceForgets.exchange demo resetAlice).reply = .ok reply :=
    exists_ok (by decide +kernel)
  have owner : (aliceForgets.db.emailTokens.find "url-safe-token-8").map (·.userId) = some 1 := by
    decide +kernel
  obtain ⟨token, stored, isAlice⟩ := Option.map_eq_some_iff.mp owner
  have sets : (aliceForgets.exchange demo resetAlice).Sets demo token.userId "0ther!Pass" :=
    ⟨reply, answered, .reset rfl stored⟩
  rw [isAlice] at sets
  exact .now sets

theorem hash_of_alice : ∃ user, aliceReset.db.users.find 1 = some user ∧
    ∃ salt, user.hashedPassword = demo.hashPassword salt "0ther!Pass" := by
  obtain ⟨user, found⟩ : ∃ user, aliceReset.db.users.find 1 = some user :=
    Option.isSome_iff_exists.mp (by decide +kernel)
  exact ⟨user, found, stored_hash_of_last_password reachable_aliceReset found setLast_aliceReset⟩

/-- Alice logs in. -/
def loginAlice : Arrival where
  http := {}
  route := .login (.login { email := "alice@example.org", password := "0ther!Pass" })

theorem alice_shows_last_password : ∃ user, loginAlice.VouchesFor demo aliceReset.db user ∧
    (SetLast demo user.id "0ther!Pass" aliceReset.history ∨
      NeverSet demo aliceReset.history user.id ∧ FromProvider aliceReset.history user.id ∧
        ∃ salt draw, "0ther!Pass" = demo.tokenUrlsafe draw ∧
          user.hashedPassword = demo.hashPassword salt "0ther!Pass") := by
  obtain ⟨reply, answered⟩ : ∃ reply, (aliceReset.exchange demo loginAlice).reply = .ok reply :=
    exists_ok (by decide +kernel)
  exact password_shown_is_last reachable_aliceReset rfl answered

end EnterpriseAuth
