import EnterpriseAuth.Guarantees.Lockout
import EnterpriseAuth.Guarantees.OAuthStates
import EnterpriseAuth.Guarantees.UniqueAddresses

/-!
# Accounts behind provider identities

`handle_callback` in the transaction of its request: the users who may be signed in through a
provider account, the one that is created for a newcomer, and that nothing is written otherwise.
-/

namespace EnterpriseAuth

open Effects Program OAuthService

variable {T : Type} (env : Environment T)

/-! ## Who is signed in -/

/-- The authorize route writes no user into the state, and the link route writes the one who is
signed in. -/
def OAuthState.Written (payload : OAuthState) : Prop :=
  payload.mode = .link ↔ payload.linkUserId.isSome

/-- The three ways in which a provider account leads to a user who is there already. -/
inductive Entitled (db : Database T) (provider : String) (payload : OAuthState)
    (info : OAuthUserInfo) (user : User T) : Prop
  | linked {account : OAuthAccount T}
    (link : db.oauthAccounts.find (provider, info.accountId) = some account)
    (owner : account.userId = user.id)
  | linking (mode : payload.mode = .link) (started : payload.linkUserId = some user.id)
  | verified {email : String} (mode : payload.mode = .login) (address : info.email = some email)
    (same : env.sqlLower user.email = env.lower email) (providerVerified : info.emailVerified = true)
    (userVerified : user.isVerified = true)

/-- A login through a provider account that is not linked, with an address that nobody owns. -/
structure Newcomer (db : Database T) (provider : String) (payload : OAuthState)
    (info : OAuthUserInfo) (email : String) : Prop where
  mode : payload.mode = .login
  unlinked : db.oauthAccounts.find (provider, info.accountId) = none
  address : info.email = some email
  given : email ≠ ""
  unowned : ∀ user ∈ db.users.rows, env.sqlLower user.email ≠ env.lower email

/-- The texts of the profile fit the columns that they are written to, and hold no U+0000. -/
def ProfileFits (provider : String) (info : OAuthUserInfo) (email : String) : Bool :=
  fitsColumn 320 (env.lower email) && fitsColumn 255 info.name && fitsColumn 32 provider &&
    fitsColumn 255 info.accountId && fitsColumn 320 email

/-- One link from the provider account to the user is added. -/
def Links (before after : Database T) (provider : String) (info : OAuthUserInfo) (user : User T) :
    Prop :=
  ∃ account : OAuthAccount T, account.userId = user.id ∧ account.provider = provider ∧
    account.providerAccountId = info.accountId ∧
    before.oauthAccounts.insert account = some after.oauthAccounts

/-- One user with the lowered address is added, and one link from the provider account to it. -/
structure SignsUp (before after : Database T) (provider : String) (info : OAuthUserInfo)
    (email : String) (user : User T) : Prop where
  address : user.email = env.lower email
  inserted : before.users.insert user = some after.users
  links : Links before after provider info user

/-- What `handle_callback` returns for a profile, with the database before and after its request. -/
inductive SignsIn (before : Database T) (provider : String) (payload : OAuthState)
    (info : OAuthUserInfo) : Except AppError (User T × OAuthMode) → Database T → Prop
  | existing {after : Database T} {user : User T}
    (stored : before.users.find user.id = some user)
    (entitled : Entitled env before provider payload info user)
    (users : after.users = before.users)
    (links : after.oauthAccounts = before.oauthAccounts ∨ Links before after provider info user) :
    SignsIn before provider payload info (.ok (user, payload.mode)) after
  | created {after : Database T} {user : User T} {email : String}
    (newcomer : Newcomer env before provider payload info email)
    (signsUp : SignsUp env before after provider info email user) :
    SignsIn before provider payload info (.ok (user, payload.mode)) after
  | raised {after : Database T} {error : AppError} (users : after.users = before.users)
    (links : after.oauthAccounts = before.oauthAccounts) :
    SignsIn before provider payload info (.error error) after

variable {env} {start : Server T} {provider : String} {payload : OAuthState}
  {info : OAuthUserInfo}

/-- Where no user is linked, the flow is a login. -/
theorem OAuthState.Written.login (written : payload.Written)
    (unlinking : ¬ (payload.mode = .link ∧ payload.linkUserId.isSome)) : payload.mode = .login := by
  cases isMode : payload.mode with
  | login => rfl
  | link => exact absurd ⟨isMode, written.mp isMode⟩ unlinking

theorem usersByEmail_eq_nil {db : Database T} {email : String} :
    db.usersByEmail env email = [] ↔
      ∀ user ∈ db.users.rows, env.sqlLower user.email ≠ env.lower email := by
  simp [Database.usersByEmail, List.filter_eq_nil_iff]

/-- A user who is found for an unlinked account may be signed in. -/
theorem Claimant.entitled {db : Database T} {user : User T} (written : payload.Written)
    (claimant : Claimant env db payload info user) :
    db.users.find user.id = some user ∧ Entitled env db provider payload info user := by
  cases claimant with
  | linking mode started found => exact ⟨found, .linking mode started⟩
  | @verified email mode address given owner providerVerified userVerified =>
    have member : user ∈ db.usersByEmail env email := by simp [owner]
    simp only [Database.usersByEmail, List.mem_filter, beq_iff_eq] at member
    exact ⟨Table.find_of_mem member.1,
      .verified (written.login mode) address member.2 providerVerified userVerified⟩

/-- A resolved profile, where the request commits what it has written unless it raises. -/
theorem ProfileOutcome.signsIn {final : Server T} {result : Except AppError (User T × OAuthMode)}
    (begun : start.working = start.committed) (written : payload.Written)
    (outcome : ProfileOutcome env start provider payload info result final) :
    SignsIn env start.committed provider payload info result
      (if result.isOk then final.working else final.committed) := by
  rw [← begun]
  cases outcome with
  | linked link owner found =>
    have key := Table.find_key found
    apply SignsIn.existing (key ▸ found) (.linked link key.symm)
    · rfl
    · exact .inl rfl
  | joined unlinked claimant inserted =>
    obtain ⟨-, -, accounts, added, rfl⟩ := Database.insertOAuthAccount_ok inserted
    obtain ⟨stored, entitled⟩ := claimant.entitled written
    apply SignsIn.existing stored entitled
    · rfl
    · exact .inr ⟨_, rfl, rfl, rfl, added⟩
  | created unlinked mode address given unowned insertedUser insertedAccount =>
    obtain ⟨-, -, users, addedUser, rfl⟩ := Database.insertUser_ok insertedUser
    obtain ⟨-, -, accounts, addedAccount, rfl⟩ := Database.insertOAuthAccount_ok insertedAccount
    exact .created ⟨written.login mode, unlinked, address, given, usersByEmail_eq_nil.mp unowned⟩
      ⟨rfl, addedUser, _, rfl, rfl, rfl, addedAccount⟩
  | raised committed =>
    have same := committed.trans begun.symm
    exact .raised (congrArg Database.users same) (congrArg Database.oauthAccounts same)

/-- A newcomer who is signed up has a profile whose texts fit. -/
theorem ProfileOutcome.fits {final : Server T} {result : User T × OAuthMode} {email : String}
    (newcomer : Newcomer env start.working provider payload info email)
    (outcome : ProfileOutcome env start provider payload info (.ok result) final) :
    ProfileFits env provider info email = true := by
  cases outcome with
  | linked link owner found => simp [newcomer.unlinked] at link
  | joined unlinked claimant inserted =>
    cases claimant with
    | linking mode started found => simp [newcomer.mode] at mode
    | verified mode address given owner =>
      -- the owner would have been found
      obtain rfl := Option.some.inj (newcomer.address.symm.trans address)
      simp [usersByEmail_eq_nil.mpr newcomer.unowned] at owner
  | created unlinked mode address given unowned insertedUser insertedAccount =>
    obtain rfl := Option.some.inj (newcomer.address.symm.trans address)
    have user := (Database.insertUser_ok insertedUser).1
    have account := (Database.insertOAuthAccount_ok insertedAccount).1
    simp only [User.fits, Server.oauthUser, Bool.and_eq_true] at user
    simp only [OAuthAccount.fits, Server.oauthAccount, address, fitsNullable, Bool.and_eq_true]
      at account
    simp [ProfileFits, user, account]

/-! ## The rows of a newcomer -/

/-- A newcomer whose texts fit is stored. -/
theorem insertUser_newcomer [env.LowersOnce] (hashesFit : HashesFit env)
    (numbered : start.working.WellNumbered start.draws) {email : String}
    (newcomer : Newcomer env start.working provider payload info email)
    (fits : ProfileFits env provider info email = true) :
    ∃ users, start.working.users.insert (start.oauthUser env email info) = some users ∧
      Database.insertUser (start.oauthUser env email info) start.working =
        .ok { start.working with users } := by
  simp only [ProfileFits, Bool.and_eq_true] at fits
  have rowFits : (start.oauthUser env email info).fits = true := by
    simp [User.fits, Server.oauthUser, fits, hashesFit _ _]
  have free : start.working.emailTaken (start.oauthUser env email info) = false := by
    rw [Database.emailTaken, List.any_eq_false]
    intro other member taken
    -- whoever has the lowered address would have been found by it
    have same : other.email = env.lower email := by
      simp only [Bool.and_eq_true, beq_iff_eq] at taken
      exact taken.2
    apply newcomer.unowned other member
    rw [same, Environment.LowersOnce.sql]
  have unused : start.working.users.find (start.oauthUser env email info).id = none := by
    cases found : start.working.users.find (start.oauthUser env email info).id with
    | none => rfl
    | some user =>
      have drawn := numbered.users _ user found
      simp [Server.oauthUser] at drawn
  obtain ⟨users, inserted⟩ := Table.insert_isSome unused
  exact ⟨users, inserted, by simp [Database.insertUser, rowFits, free, inserted]⟩

/-- The link of a newcomer is stored, once the user is. -/
theorem insertOAuthAccount_newcomer {email : String}
    (newcomer : Newcomer env start.working provider payload info email)
    (fits : ProfileFits env provider info email = true) {users : Table (User.id (T := T))}
    {user : User T} (inserted : start.working.users.insert user = some users) :
    ∃ oauthAccounts,
      start.working.oauthAccounts.insert (start.oauthAccount user.id provider info) =
        some oauthAccounts ∧
      Database.insertOAuthAccount (start.oauthAccount user.id provider info)
        { start.working with users } = .ok { start.working with users, oauthAccounts } := by
  simp only [ProfileFits, Bool.and_eq_true] at fits
  have rowFits : (start.oauthAccount user.id provider info).fits = true := by
    simp [OAuthAccount.fits, Server.oauthAccount, fits, newcomer.address, fitsNullable]
  have known : users.find user.id = some user := by
    rw [Table.find_insert inserted, if_pos rfl]
  have fresh : ∃ extended, start.working.oauthAccounts.insert
      (start.oauthAccount user.id provider info) = some extended :=
    Table.insert_isSome newcomer.unlinked
  obtain ⟨oauthAccounts, linked⟩ := fresh
  refine ⟨oauthAccounts, linked, ?_⟩
  have owner : (start.oauthAccount user.id provider info).userId = user.id := rfl
  simp [Database.insertOAuthAccount, Database.userExists, rowFits, owner, known, linked]

/-! ## One callback -/

section
variable [CommRing T] [LinearOrder T]

theorem run_handleCallback {registry : String → Option Provider} {code state : String}
    (input : CallbackInput start registry provider code state payload info) :
    (handleCallback env registry provider code state).run handle start =
      (resolveProfile env provider payload info).run handle (start.popped state) := by
  obtain ⟨stored, sameProvider, source, token, configured, exchanged, fetched⟩ := input
  have popped : (popState state provider).run handle start = (.ok payload, start.popped state) := by
    simp [popState, run_bind, stored, sameProvider, Server.popped]
  rw [handleCallback_eq, run_bind, popped]
  simp [callbackWith, providerOr404, configured, exchanged, fetched, liftExcept]

theorem run_resolveProfile_newcomer [env.LowersOnce] (hashesFit : HashesFit env)
    (numbered : start.working.WellNumbered start.draws) {email : String}
    (newcomer : Newcomer env start.working provider payload info email)
    (fits : ProfileFits env provider info email = true) :
    ∃ user working, (resolveProfile env provider payload info).run handle start =
        (.ok (user, .login), { start with working, draws := start.draws + 3 }) ∧
      SignsUp env start.working working provider info email user := by
  obtain ⟨users, inserted, insertedUser⟩ := insertUser_newcomer hashesFit numbered newcomer fits
  obtain ⟨oauthAccounts, linked, insertedLink⟩ :=
    insertOAuthAccount_newcomer newcomer fits inserted
  refine ⟨start.oauthUser env email info, { start.working with users, oauthAccounts }, ?_,
    rfl, inserted, _, rfl, rfl, rfl, linked⟩
  have nobody : start.working.getByEmail env email = .ok none := by
    simp [Database.getByEmail, usersByEmail_eq_nil.mpr newcomer.unowned]
  have given : resolveUser.nonEmptyEmail info.email = some email := by
    simp [resolveUser.nonEmptyEmail, newcomer.address, newcomer.given]
  have created : (resolveUser env info .login payload.linkUserId).run handle start =
      (.ok (start.oauthUser env email info),
        { start with working := { start.working with users }, draws := start.draws + 3 }) := by
    simp only [Server.oauthUser] at insertedUser ⊢
    simp only [resolveUser, given, run_bind, run_getByEmail, nobody, run_uuid4, run_addUser,
      Nat.add_assoc, Nat.reduceAdd, insertedUser]
  simp only [Server.oauthAccount] at insertedLink
  simp only [resolveProfile, run_bind, run_view, newcomer.unlinked, newcomer.mode, created, run_now,
    run_write, insertedLink, run_pure]

/-- In a run of the service, nothing but the two routes writes a state. -/
theorem written_of_reachable [FloorRing T] {world : World T}
    (reachable : (service env).Reachable world) {state : String}
    (stored : world.redis.lookup world.clock (.oauthState state) = some (.oauth payload)) :
    payload.Written := by
  obtain ⟨entry, kept, isValue, -⟩ := ExpiringStore.lookup_entry stored
  obtain ⟨authorization, -, flow, minted, started, -, storedAs, rfl⟩ :=
    statesMinted_of_reachable reachable state entry kept
  obtain rfl : minted = payload := by simpa using isValue
  rw [OAuthState.Written, storedAs.mode, storedAs.linkUserId]
  refine ⟨storedAs.linking, fun linking => ?_⟩
  unfold Exchange.flow Arrival.flow at started
  split at started <;> cases started
  · cases linking
  · rfl

/-- A transaction begins with what is committed. -/
def Server.begun (server : Server T) : Server T := { server with working := server.committed }

variable (env) in
/-- The callback in a transaction of its own. -/
def Server.callback (server : Server T) (registry : String → Option Provider)
    (provider code state : String) : Except AppError (User T × OAuthMode) × Server T :=
  (getDb (handleCallback env registry provider code state)).run handle server.begun

variable {server : Server T} {registry : String → Option Provider} {code state : String}

theorem callback_eq (input : CallbackInput server registry provider code state payload info) :
    server.callback env registry provider code state =
      match (resolveProfile env provider payload info).run handle (server.begun.popped state) with
      | (.ok value, final) => (.ok value, final.commit)
      | (.error error, final) => (.error error, final) := by
  have begun : CallbackInput server.begun registry provider code state payload info :=
    ⟨input.stored, input.sameProvider, input.answers⟩
  rw [Server.callback, run_getDb, run_handleCallback begun]
  cases (resolveProfile env provider payload info).run handle (server.begun.popped state) with
  | mk result final => cases result <;> rfl

variable (env) in
/-- A callback signs in the owner of the provider account, the user who has started the link, or
the verified owner of the verified address; it signs up a newcomer whose texts fit their columns; and
it raises without a trace in users and links otherwise. -/
theorem oauth_cannot_take_over
    (input : CallbackInput server registry provider code state payload info)
    (written : payload.Written) :
    SignsIn env server.committed provider payload info
      (server.callback env registry provider code state).1
      (server.callback env registry provider code state).2.committed ∧
    (env.LowersOnce → HashesFit env → server.committed.WellNumbered server.draws → ∀ email,
      Newcomer env server.committed provider payload info email →
      ProfileFits env provider info email = true →
      ∃ user, (server.callback env registry provider code state).1 = .ok (user, .login) ∧
        SignsUp env server.committed (server.callback env registry provider code state).2.committed
          provider info email user) := by
  rw [callback_eq input]
  constructor
  · have outcome := run_resolveProfile env (server.begun.popped state) provider payload info
    have signsIn := ProfileOutcome.signsIn rfl written outcome
    generalize (resolveProfile env provider payload info).run handle (server.begun.popped state) =
      ran at signsIn
    obtain ⟨result, final⟩ := ran
    cases result with
    | ok => exact signsIn
    | error => exact signsIn
  · intro lowersOnce hashesFit numbered email newcomer fits
    have stored : ∃ user working,
        (resolveProfile env provider payload info).run handle (server.begun.popped state) =
          (.ok (user, .login),
            { server.begun.popped state with working, draws := server.draws + 3 }) ∧
        SignsUp env server.committed working provider info email user :=
      run_resolveProfile_newcomer hashesFit numbered newcomer fits
    obtain ⟨user, working, ran, signsUp⟩ := stored
    rw [ran]
    exact ⟨user, rfl, signsUp⟩

/-- The texts of a newcomer who is signed up fit their columns. -/
theorem profileFits_of_callback {email : String}
    (input : CallbackInput server registry provider code state payload info)
    (newcomer : Newcomer env server.committed provider payload info email)
    {result : User T × OAuthMode}
    (signedUp : (server.callback env registry provider code state).1 = .ok result) :
    ProfileFits env provider info email = true := by
  have outcome := run_resolveProfile env (server.begun.popped state) provider payload info
  rw [callback_eq input] at signedUp
  split at signedUp
  next value final ran =>
    rw [ran] at outcome
    exact outcome.fits newcomer
  next => cases signedUp

end

/-! ## A name that is too long -/

/-- Carol has a name of as many letters. -/
def carolInfo (letters : ℕ) : OAuthUserInfo where
  provider := "google"
  accountId := "carol"
  email := some "Carol@example.org"
  name := String.ofList (List.replicate letters 'c')
  emailVerified := true

def carolProvider (letters : ℕ) (name : String) : Option Provider :=
  if name ≠ "google" then none
  else some {
    usesPkce := true
    exchangeCode := fun code _ => .ok code
    fetchUserInfo := fun _ => .ok (carolInfo letters) }

/-- Carol has begun to sign in, where nobody is registered. -/
def carolAuthorizes : World ℚ :=
  World.new.play demo
    [.request
      { http := {}, route := .openTo (.oauthAuthorize "google"), registry := carolProvider 255 }]

def carolState : OAuthState where
  provider := "google"
  codeVerifier := some "url-safe-token-1"
  mode := .login
  linkUserId := none

theorem carolState_written : carolState.Written := by
  simp [OAuthState.Written, carolState]

theorem carolInput (letters : ℕ) : CallbackInput carolAuthorizes.server (carolProvider letters)
    "google" "code" "url-safe-token-0" carolState (carolInfo letters) :=
  ⟨by decide +kernel, rfl, _, _, rfl, rfl, rfl⟩

theorem carolNewcomer (letters : ℕ) : Newcomer demoHashing carolAuthorizes.server.committed "google"
    carolState (carolInfo letters) "Carol@example.org" where
  mode := rfl
  unlinked := by
    have none : carolAuthorizes.server.committed.oauthAccounts.rows = [] := by decide +kernel
    simp [Table.find, none]
  address := rfl
  given := by decide
  unowned := by decide +kernel

theorem profileFits_carol (letters : ℕ) :
    ProfileFits demoHashing "google" (carolInfo letters) "Carol@example.org" ↔ letters ≤ 255 := by
  have name : (carolInfo letters).name.length = letters := by simp [carolInfo]
  have account : (carolInfo letters).accountId = "carol" := rfl
  have rest : fitsColumn 320 (demoHashing.lower "Carol@example.org") = true ∧
      fitsColumn 32 "google" = true ∧ fitsColumn 255 "carol" = true ∧
      fitsColumn 320 "Carol@example.org" = true := by decide +kernel
  simp only [ProfileFits, account, rest, Bool.true_and, Bool.and_true]
  have letters_only : (carolInfo letters).name.toList.all (fun character => character.toNat ≠ 0) =
      true := by
    simp [carolInfo]
  rw [fitsColumn, letters_only, Bool.and_true, fitsWidth, name, decide_eq_true_eq]

instance : demoHashing.LowersOnce := by
  have lowersOnce : demo.LowersOnce := inferInstance
  exact ⟨lowersOnce.again, lowersOnce.sql⟩

/-- With a name of 255 letters she is signed up. -/
theorem carol_signed_up : ∃ user : User ℚ, user.email = "carol@example.org" ∧
    (carolAuthorizes.server.callback demoHashing (carolProvider 255) "google" "code"
      "url-safe-token-0").1 = .ok (user, .login) := by
  have sound := oauth_cannot_take_over demoHashing (carolInput 255) carolState_written
  have numbered : carolAuthorizes.server.committed.WellNumbered carolAuthorizes.server.draws := by
    have users : carolAuthorizes.server.committed.users.rows = [] := by decide +kernel
    have factors : carolAuthorizes.server.committed.twoFactorAuth.rows = [] := by decide +kernel
    constructor <;> intro id row found
    · simp [Table.find, users] at found
    · simp [Table.find, factors] at found
  obtain ⟨user, signedUp, signsUp⟩ := sound.2 inferInstance hashesFit_demoHashing numbered _
    (carolNewcomer 255) ((profileFits_carol 255).mpr le_rfl)
  have lowered : demoHashing.lower "Carol@example.org" = "carol@example.org" := by decide +kernel
  exact ⟨user, signsUp.address.trans lowered, signedUp⟩

/-- A newcomer is not signed up if the provider reports a name that is longer than its column. -/
theorem long_name_not_signed_up :
    ¬ ∀ (server : Server ℚ) (registry : String → Option Provider) (provider code state : String)
      (payload : OAuthState) (info : OAuthUserInfo) (email : String),
      CallbackInput server registry provider code state payload info → payload.Written →
      Newcomer demoHashing server.committed provider payload info email →
      ∃ user, (server.callback demoHashing registry provider code state).1 = .ok (user, .login) := by
  intro signsUp
  obtain ⟨user, signedUp⟩ := signsUp _ _ _ _ _ _ _ _ (carolInput 256) carolState_written
    (carolNewcomer 256)
  have fits := profileFits_of_callback (carolInput 256) (carolNewcomer 256) signedUp
  simp [profileFits_carol] at fits

end EnterpriseAuth
