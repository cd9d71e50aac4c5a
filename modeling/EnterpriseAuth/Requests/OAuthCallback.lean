import EnterpriseAuth.Requests.SessionEffects

/-!
# Outcomes of the OAuth callback

`handle_callback`, case by case: which user a provider's profile is resolved to, and what is
written on the way.
-/

namespace EnterpriseAuth

open Effects Program OAuthService

variable {T : Type} (env : Environment T) [CommRing T] [LinearOrder T]

/-! ## The user a profile belongs to -/

/-- The user who is found for a provider account that is not linked yet: the one who started the
link, or the verified owner of the address that the provider has verified. -/
inductive Claimant (db : Database T) (payload : OAuthState) (info : OAuthUserInfo) :
    User T → Prop
  | linking {user : User T} (mode : payload.mode = .link) (started : payload.linkUserId = some user.id)
    (found : db.users.find user.id = some user) : Claimant db payload info user
  | verified {user : User T} {email : String} (mode : ¬ (payload.mode = .link ∧ payload.linkUserId.isSome))
    (address : info.email = some email) (given : email ≠ "")
    (owner : db.usersByEmail env email = [user])
    (providerVerified : info.emailVerified = true) (userVerified : user.isVerified = true) :
    Claimant db payload info user

/-- The row that links the provider account to a user. -/
def Server.oauthAccount (server : Server T) (userId : Uuid) (provider : String)
    (info : OAuthUserInfo) : OAuthAccount T :=
  { userId, provider, providerAccountId := info.accountId, email := info.email
    createdAt := server.clock }

/-- The user that is created for a profile nobody owns. -/
def Server.oauthUser (server : Server T) (email : String) (info : OAuthUserInfo) : User T :=
  { id := server.draws + 2
    email := env.lower email
    hashedPassword := env.hashPassword (server.draws + 1) (env.tokenUrlsafe server.draws)
    fullName := info.name
    isVerified := info.emailVerified
    roles := server.working.defaultRoles
    rolesLoaded := !server.working.defaultRoles.isEmpty
    createdAt := server.clock }

/-- The ways in which a profile is resolved. -/
inductive ProfileOutcome (start : Server T) (provider : String) (payload : OAuthState)
    (info : OAuthUserInfo) : Except AppError (User T × OAuthMode) → Server T → Prop
  | linked {account : OAuthAccount T} {user : User T}
    (link : start.working.oauthAccounts.find (provider, info.accountId) = some account)
    (owner : payload.mode = .link → payload.linkUserId.isSome →
      payload.linkUserId = some account.userId)
    (found : start.working.users.find account.userId = some user) :
    ProfileOutcome start provider payload info (.ok (user, payload.mode)) start
  | joined {user : User T} {working : Database T}
    (unlinked : start.working.oauthAccounts.find (provider, info.accountId) = none)
    (claimant : Claimant env start.working payload info user)
    (inserted : Database.insertOAuthAccount (start.oauthAccount user.id provider info)
      start.working = .ok working) :
    ProfileOutcome start provider payload info (.ok (user, payload.mode)) { start with working }
  | created {email : String} {middle working : Database T}
    (unlinked : start.working.oauthAccounts.find (provider, info.accountId) = none)
    (mode : ¬ (payload.mode = .link ∧ payload.linkUserId.isSome))
    (address : info.email = some email) (given : email ≠ "")
    (unowned : start.working.usersByEmail env email = [])
    (insertedUser : Database.insertUser (start.oauthUser env email info) start.working = .ok middle)
    (insertedAccount : Database.insertOAuthAccount
      (start.oauthAccount (start.oauthUser env email info).id provider info) middle = .ok working) :
    ProfileOutcome start provider payload info
      (.ok (start.oauthUser env email info, payload.mode))
      { start with working, draws := start.draws + 3 }
  | raised {error : AppError} {final : Server T} (committed : final.committed = start.committed) :
    ProfileOutcome start provider payload info (.error error) final

omit [CommRing T] [LinearOrder T] in
theorem usersByEmail_of_some {db : Database T} {email : String} {user : User T}
    (looked : db.getByEmail env email = .ok (some user)) : db.usersByEmail env email = [user] := by
  unfold Database.getByEmail at looked
  split at looked <;> cases looked
  assumption

omit [CommRing T] [LinearOrder T] in
theorem usersByEmail_of_none {db : Database T} {email : String}
    (looked : db.getByEmail env email = .ok none) : db.usersByEmail env email = [] := by
  unfold Database.getByEmail at looked
  split at looked <;> cases looked
  assumption

theorem run_getByEmail (server : Server T) (email : String) :
    (getByEmail env email).run handle server = (server.working.getByEmail env email, server) := by
  simp only [getByEmail, run_bind, run_view]
  cases server.working.getByEmail env email <;> rfl

theorem run_addUser (server : Server T) (email hashedPassword fullName : String)
    (isVerified : Bool) :
    (addUser email hashedPassword fullName isVerified).run handle server =
      let user : User T :=
        { id := server.draws, email, hashedPassword, fullName, isVerified
          roles := server.working.defaultRoles
          rolesLoaded := !server.working.defaultRoles.isEmpty
          createdAt := server.clock }
      match Database.insertUser user server.working with
      | .ok working => (.ok user, { server with working, draws := server.draws + 1 })
      | .error error => (.error error, { server with draws := server.draws + 1 }) := by
  simp only [addUser, run_bind, run_view, run_uuid4, run_now, run_write, run_pure]
  cases Database.insertUser _ server.working <;> rfl

/-- The link that `handle_callback` adds once the user is known. -/
theorem run_addLink (server : Server T) (user : User T) (mode : OAuthMode) (provider : String)
    (info : OAuthUserInfo) :
    (do
      let createdAt ← now
      write (Database.insertOAuthAccount
        { userId := user.id, provider, providerAccountId := info.accountId, email := info.email
          createdAt })
      return (user, mode) : App T (User T × OAuthMode)).run handle server =
      match Database.insertOAuthAccount (server.oauthAccount user.id provider info)
        server.working with
      | .ok working => (.ok (user, mode), { server with working })
      | .error error => (.error error, server) := by
  simp only [run_bind, run_now, run_write, run_pure, Server.oauthAccount]
  cases Database.insertOAuthAccount _ server.working <;> rfl

/-- The user that `_resolve_user` returns was there before, or has just been created. -/
theorem triple_resolveUser (start : Server T) (payload : OAuthState) (info : OAuthUserInfo) :
    Triple handle (· = start) (resolveUser env info payload.mode payload.linkUserId)
      (fun user final => (Claimant env start.working payload info user ∧ final = start) ∨
        ∃ email middle, ¬ (payload.mode = .link ∧ payload.linkUserId.isSome) ∧
          info.email = some email ∧ email ≠ "" ∧ start.working.usersByEmail env email = [] ∧
          user = start.oauthUser env email info ∧
          Database.insertUser user start.working = .ok middle ∧
          final = { start with working := middle, draws := start.draws + 3 })
      (fun _ _ => True) := by
  unfold resolveUser
  split
  next userId mode started =>
    refine Triple.bind (Triple.read run_view) fun db => ?_
    split
    next => exact Triple.throw fun _ _ => trivial
    next user found =>
      cases Table.find_key found
      refine Triple.pure ?_
      rintro _ ⟨rfl, rfl⟩
      exact .inl ⟨.linking mode started found, rfl⟩
  -- a profile without an address is refused before any user is looked up
  next notLinking =>
    have login : ¬ (payload.mode = .link ∧ payload.linkUserId.isSome) := by
      rintro ⟨mode, started⟩
      obtain ⟨userId, started⟩ := Option.isSome_iff_exists.mp started
      exact notLinking userId mode started
    split
    next => exact Triple.throw fun _ _ => trivial
    next email address =>
      rw [resolveUser.nonEmptyEmail, Option.filter_eq_some_iff] at address
      have given : email ≠ "" := by simpa using address.2
      have looked : Triple handle (· = start) (getByEmail env email)
          (fun owner server => server = start ∧
            start.working.getByEmail env email = .ok owner) (fun _ _ => True) := by
        constructor
        rintro _ rfl
        rw [run_getByEmail]
        cases Database.getByEmail env _ email with
        | ok owner => exact ⟨rfl, rfl⟩
        | error => trivial
      refine Triple.bind looked fun owner => ?_
      cases owner with
      | some owner =>
        refine Triple.ite (fun verified => Triple.pure ?_) fun _ => Triple.throw fun _ _ => trivial
        rintro _ ⟨rfl, looked⟩
        rw [Bool.and_eq_true] at verified
        exact .inl ⟨.verified login address.1 given (usersByEmail_of_some env looked) verified.1
          verified.2, rfl⟩
      | none =>
        constructor
        rintro _ ⟨rfl, looked⟩
        simp only [run_bind, run_uuid4, run_addUser]
        split
        next user final ran =>
          split at ran
          next middle inserted =>
            cases ran
            exact .inr ⟨email, middle, login, address.1, given, usersByEmail_of_none env looked, rfl,
              inserted, rfl⟩
          next => cases ran
        next => trivial

theorem run_resolveProfile (start : Server T) (provider : String) (payload : OAuthState)
    (info : OAuthUserInfo) :
    ProfileOutcome env start provider payload info
      ((resolveProfile env provider payload info).run handle start).1
      ((resolveProfile env provider payload info).run handle start).2 := by
  have aside := Within.aside .standing (resolveProfile env provider payload info) start
  have outcome : Triple handle (· = start) (resolveProfile env provider payload info)
      (fun result final => ProfileOutcome env start provider payload info (.ok result) final)
      (fun _ _ => True) := by
    simp only [resolveProfile, throw_bind]
    refine Triple.bind (Triple.read run_view) fun db => ?_
    split
    -- a stored link decides alone; the mode only rules out another user
    next account link =>
      refine Triple.ite (fun _ => Triple.throw fun _ _ => trivial) fun accepted => ?_
      split
      next => exact Triple.throw fun _ _ => trivial
      next user found =>
        refine Triple.pure ?_
        rintro _ ⟨rfl, rfl⟩
        refine .linked link ?_ found
        intro mode started
        by_contra different
        exact accepted ⟨mode, started, fun same => different same.symm⟩
    -- the new link is inserted for an existing user or for one that was just created
    next unlinked =>
      constructor
      rintro server ⟨same, rfl⟩
      have resolved := (triple_resolveUser env start payload info).outcome server same
      subst same
      rw [run_bind]
      split at resolved
      next user final ran =>
        rw [run_addLink final user payload.mode provider info]
        rcases resolved with ⟨claimant, rfl⟩ | ⟨email, middle, mode, address, given, unowned, rfl,
          insertedUser, rfl⟩
        · cases inserted : Database.insertOAuthAccount (final.oauthAccount user.id provider info)
            final.working with
          | ok working => exact .joined unlinked claimant inserted
          | error => trivial
        · let created : Server T := { server with working := middle, draws := server.draws + 3 }
          cases inserted : Database.insertOAuthAccount
            (created.oauthAccount (server.oauthUser env email info).id provider info) middle with
          | ok working =>
            exact .created unlinked mode address given unowned insertedUser inserted
          | error => trivial
      next => trivial
  have ran := outcome.outcome start rfl
  split at ran
  next result final same => rw [same]; exact ran
  next error final same => rw [same] at aside ⊢; exact .raised aside.committed

/-! ## The callback -/

/-- The state that the request presents, if it is for a provider's callback. -/
def Route.presentedState : Route → Option String
  | .login (.oauthCallback _ _ state) => some state
  | _ => none

theorem callback_of_presentedState {route : Route} {state : String}
    (presented : route.presentedState = some state) :
    ∃ provider code, route = .login (.oauthCallback provider code state) := by
  unfold Route.presentedState at presented
  split at presented
  next provider code other =>
    cases presented
    exact ⟨provider, code, rfl⟩
  next => cases presented

/-- The state was issued for the provider, and the provider answers with the profile. -/
structure CallbackInput (start : Server T) (registry : String → Option Provider)
    (provider code state : String) (payload : OAuthState) (info : OAuthUserInfo) : Prop where
  stored : start.redis.lookup start.clock (.oauthState state) = some (.oauth payload)
  sameProvider : payload.provider = provider
  answers : ∃ configured token, registry provider = some configured ∧
    configured.exchangeCode code payload.codeVerifier = .ok token ∧
    configured.fetchUserInfo token = .ok info

/-- The server once the state has been used up. -/
def Server.popped (server : Server T) (state : String) : Server T :=
  { server with redis := server.redis.remove (.oauthState state) }

theorem triple_popState (start : Server T) (state provider : String) :
    Triple handle (· = start) (popState state provider)
      (fun payload server => server = start.popped state ∧ payload.provider = provider ∧
        start.redis.lookup start.clock (.oauthState state) = some (.oauth payload))
      (fun _ _ => True) := by
  constructor
  rintro _ rfl
  rename_i start
  simp only [popState, run_bind, run_getKey]
  cases stored : start.redis.lookup start.clock (.oauthState state) with
  | none => trivial
  | some value =>
    cases value with
    | flag => trivial
    | count => trivial
    | oauth payload =>
      simp only [run_bind, run_deleteKey, run_ite, run_throw, run_pure]
      by_cases same : payload.provider = provider
      · rw [if_neg (not_not.mpr same)]
        exact ⟨rfl, same, rfl⟩
      · rw [if_pos same]
        trivial

theorem triple_handleCallback (start : Server T) (registry : String → Option Provider)
    (provider code state : String) :
    Triple handle (· = start) (handleCallback env registry provider code state)
      (fun result final => ∃ payload info,
        CallbackInput start registry provider code state payload info ∧
        ProfileOutcome env (start.popped state) provider payload info (.ok result) final)
      (fun _ _ => True) := by
  unfold handleCallback
  refine Triple.bind (triple_popState start state provider) fun payload => ?_
  constructor
  rintro _ ⟨rfl, same, stored⟩
  simp only [providerOr404]
  cases configured : registry provider with
  | none => trivial
  | some source =>
    cases exchanged : source.exchangeCode code payload.codeVerifier with
    | error => simp only [pure_bind, exchanged, liftExcept, throw_bind, run_throw]
    | ok token =>
      cases fetched : source.fetchUserInfo token with
      | error => simp only [pure_bind, exchanged, fetched, liftExcept, throw_bind, run_throw]
      | ok info =>
        simp only [pure_bind, exchanged, fetched, liftExcept]
        have outcome := run_resolveProfile env (start.popped state) provider payload info
        split
        next result final ran =>
          rw [ran] at outcome
          exact ⟨payload, info, ⟨stored, same, source, token, configured, exchanged, fetched⟩,
            outcome⟩
        next => trivial

end EnterpriseAuth
