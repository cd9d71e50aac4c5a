import EnterpriseAuth.Requests.Interleaved
import EnterpriseAuth.Requests.Keys
import EnterpriseAuth.Requests.OAuthCallback

/-!
# Callbacks that run at the same time

A callback looks for the link of the identity that the provider reports, finds or creates the user
it belongs to, and inserts a link where there is none.  Between the look and the commit other
callbacks may do the same.  No statement removes or changes a link, and a link is inserted only where
there is none: so a callback that commits has its identity linked to the user it answers with.
-/

namespace EnterpriseAuth

open Effects Program OAuthService

-- an instance is found along the whole syntax of a handler
set_option synthInstance.maxSize 1000

variable {T ι : Type}

/-! ## Links -/

/-- Every link stays, with its owner. -/
def Frame.links : Frame T where
  holds before after := ∀ identity account, before.oauthAccounts.find identity = some account →
    after.oauthAccounts.find identity = some account
  refl _ _ _ := id
  trans first second identity account found := second identity account (first identity account found)

def Database.SameAccounts (before after : Database T) : Prop :=
  after.users = before.users ∧ after.oauthAccounts = before.oauthAccounts

/-- Users and links stay as they are. -/
def Frame.accounts : Frame T where
  holds := Database.SameAccounts
  refl _ := ⟨rfl, rfl⟩
  trans first second := ⟨second.1.trans first.1, second.2.trans first.2⟩

theorem links_of_accounts {before after : Database T} (same : before.SameAccounts after) :
    Frame.links.holds before after := by
  intro identity account found
  rwa [same.2]

theorem insertOAuthAccount_links {account : OAuthAccount T} {before after : Database T}
    (changed : Database.insertOAuthAccount account before = .ok after) :
    before.oauthAccounts.find (account.provider, account.providerAccountId) = none ∧
      after.oauthAccounts.find (account.provider, account.providerAccountId) = some account ∧
      Frame.links.holds before after := by
  obtain ⟨-, -, accounts, inserted, rfl⟩ := Database.insertOAuthAccount_ok changed
  refine ⟨(Table.insert_eq_some inserted).1, ?_, fun identity stored found => ?_⟩
  · simp [Table.find_insert inserted]
  · exact Table.find_insert_of_found inserted found

/-- No statement removes a link or changes its owner. -/
theorem bounds_links {change : Database T → Except AppError (Database T)}
    (statement : Database.Statement change) : Frame.links.Bounds change := by
  intro before after changed
  -- a statement on another table leaves the links as they are
  have untouched (same : after.oauthAccounts = before.oauthAccounts) :
      Frame.links.holds before after := by
    intro identity account found
    rwa [same]
  cases statement with
  | insertOAuthAccount => exact (insertOAuthAccount_links changed).2.2
  | insertUser => obtain ⟨-, -, _, -, rfl⟩ := Database.insertUser_ok changed; exact untouched rfl
  | insertSession =>
    obtain ⟨-, -, _, -, rfl⟩ := Database.insertSession_ok changed; exact untouched rfl
  | insertTwoFactorAuth =>
    obtain ⟨-, -, _, -, rfl⟩ := Database.insertTwoFactorAuth_ok changed; exact untouched rfl
  | insertBackupCode =>
    obtain ⟨-, -, _, -, rfl⟩ := Database.insertBackupCode_ok changed; exact untouched rfl
  | insertEmailToken =>
    obtain ⟨-, -, _, -, rfl⟩ := Database.insertEmailToken_ok changed; exact untouched rfl
  | updateUser => obtain ⟨_, -, -, -, rfl⟩ := Database.updateUser_ok changed; exact untouched rfl
  | updateSession => obtain ⟨_, -, rfl⟩ := Database.updateSession_ok changed; exact untouched rfl
  | updateTwoFactorAuth =>
    obtain ⟨_, -, -, rfl⟩ := Database.updateTwoFactorAuth_ok changed; exact untouched rfl
  | updateBackupCode => obtain ⟨_, -, rfl⟩ := Database.updateBackupCode_ok changed; exact untouched rfl
  | updateEmailToken => obtain ⟨_, -, rfl⟩ := Database.updateEmailToken_ok changed; exact untouched rfl
  | deleteTwoFactorAuth | deleteBackupCodes | deleteEmailTokens => cases changed; exact untouched rfl

/-- A transaction that inserts a link commits only where there is none. -/
theorem linked_of_member {own : Transaction T} (inside : own.Inside Frame.links)
    {account : OAuthAccount T} (member : Database.insertOAuthAccount account ∈ own.statements)
    {committed db : Database T} (shows : own.sees committed = .ok db) :
    committed.oauthAccounts.find (account.provider, account.providerAccountId) = none ∧
      db.oauthAccounts.find (account.provider, account.providerAccountId) = some account := by
  obtain ⟨statements, tasks⟩ := own
  induction statements generalizing committed with
  | nil => cases member
  | cons first statements inductionHypothesis =>
    simp only [Transaction.sees, List.foldlM_cons] at shows inductionHypothesis
    cases changed : first committed with
    | error error => rw [changed] at shows; cases shows
    | ok middle =>
      rw [changed] at shows
      have rest : (⟨statements, tasks⟩ : Transaction T).Inside Frame.links :=
        fun other member => inside other (.tail _ member)
      cases member with
      | head =>
        obtain ⟨absent, linked, -⟩ := insertOAuthAccount_links changed
        exact ⟨absent, rest.sees shows _ _ linked⟩
      | tail _ later =>
        obtain ⟨absent, linked⟩ := inductionHypothesis rest later shows
        refine ⟨Option.eq_none_iff_forall_ne_some.mpr fun stored found => ?_, linked⟩
        have kept := inside first List.mem_cons_self committed middle changed _ _ found
        simp [kept] at absent

/-! ## Callbacks -/

/-- The request has read the payload under its state. -/
def Popped (state : String) (log : RequestLog T) [LinearOrder T] (payload : OAuthState) : Prop :=
  ∃ entry ∈ log, entry.op = .redis (.get (.oauthState state)) ∧
    entry.found.redis.lookup entry.found.clock (.oauthState state) = some (.oauth payload)

/-- The provider answers the callback with the profile. -/
def Arrival.ReportsProfile (arrival : Arrival) (provider code : String) (payload : OAuthState)
    (info : OAuthUserInfo) : Prop :=
  ∃ source accessToken, arrival.registry provider = some source ∧
    source.exchangeCode code payload.codeVerifier = .ok accessToken ∧
    source.fetchUserInfo accessToken = .ok info

/-- The request is a callback that goes on with the payload, and the provider reports the identity. -/
inductive CallbackFor [LinearOrder T] (arrival : Arrival) (log : RequestLog T) (payload : OAuthState) :
    String × String → Prop
  | intro {provider code state : String} {info : OAuthUserInfo}
    (route : arrival.route = .login (.oauthCallback provider code state))
    (popped : Popped state log payload) (reports : arrival.ReportsProfile provider code payload info) :
    CallbackFor arrival log payload (provider, info.accountId)

theorem Arrival.ReportsProfile.unique {arrival : Arrival} {provider code : String} {payload : OAuthState}
    {info other : OAuthUserInfo} (reports : arrival.ReportsProfile provider code payload info)
    (reportsOther : arrival.ReportsProfile provider code payload other) : info = other := by
  obtain ⟨source, token, configured, exchanged, fetched⟩ := reports
  obtain ⟨otherSource, otherToken, otherConfigured, otherExchanged, otherFetched⟩ := reportsOther
  grind

/-- A link that was started for a user makes that user the owner. -/
def OAuthState.Meant (payload : OAuthState) (owner : Uuid) : Prop :=
  payload.mode = .link → payload.linkUserId.isSome → payload.linkUserId = some owner

abbrev Statements (T : Type) := List (Database T → Except AppError (Database T))

/-- The link has been found, and nothing is written to users and links; or it is being inserted. -/
inductive Settled (identity : String × String) (account : OAuthAccount T) :
    Statements T → Database T → Prop
  | found {statements : Statements T} {committed : Database T}
    (linked : committed.oauthAccounts.find identity = some account)
    (quiet : ∀ change ∈ statements, Frame.accounts.Bounds change) :
    Settled identity account statements committed
  | linking {statements : Statements T} {committed : Database T}
    (member : Database.insertOAuthAccount account ∈ statements)
    (isIdentity : (account.provider, account.providerAccountId) = identity) :
    Settled identity account statements committed

/-- What a commit makes of a settled link. -/
theorem Settled.commits {identity : String × String} {account : OAuthAccount T} {own : Transaction T}
    {committed db : Database T} (settled : Settled identity account own.statements committed)
    (inside : own.Inside Frame.links) (shows : own.sees committed = .ok db) :
    db.oauthAccounts.find identity = some account ∧
      (committed.SameAccounts db ∨ committed.oauthAccounts.find identity = none) := by
  cases settled with
  | found linked quiet =>
    have same : committed.SameAccounts db := Transaction.Inside.sees quiet shows
    exact ⟨links_of_accounts same _ _ linked, .inl same⟩
  | linking member isIdentity =>
    obtain ⟨absent, linked⟩ := linked_of_member inside member shows
    rw [isIdentity] at absent linked
    exact ⟨linked, .inr absent⟩

section
variable [CommRing T] [LinearOrder T]

/-- A callback commits at its end, with its link settled. -/
def CallbackAllowed (arrival : Arrival) (own : Transaction T) (log : RequestLog T)
    (command : Command T) (shared : Shared T) : Prop :=
  arrival.route.presentedState.isSome →
    (∀ entry ∈ log, entry.op ≠ .commit) ∧
    (command = .commit → ∀ payload identity, CallbackFor arrival log payload identity →
      ∃ account, payload.Meant account.userId ∧
        Settled identity account own.statements shared.committed)

def callbackDiscipline :
    Discipline (Command T) Command.Res AppError (Arrival × Transaction T) (Shared T) :=
  Frame.links.discipline CallbackAllowed

/-- What a callback knows of itself before it commits. -/
structure Underway (arrival : Arrival) (state : String) (known : OAuthState → Prop)
    (holds : Statements T → Database T → Prop) (vantage : RequestVantage T) : Prop where
  label : vantage.own.1 = arrival
  inside : vantage.own.2.Inside Frame.links
  sent : ∀ change ∈ vantage.own.2.statements, Database.Statement change
  uncommitted : ∀ entry ∈ vantage.log, entry.op ≠ .commit
  pops : ∀ payload, Popped state vantage.log payload → known payload
  holds : holds vantage.own.2.statements vantage.since.committed

/-- The command commits nothing, does not read the state and writes what it may. -/
def Command.Clear (state : String) (may : (Database T → Except AppError (Database T)) → Prop) :
    Command T → Prop
  | .commit => False
  | .redis command => command ≠ .get (.oauthState state)
  | .write change => Database.Statement change ∧ may change
  | _ => True

/-- What other requests leave as it is, and the statements that may be made. -/
structure Steady (may : (Database T → Except AppError (Database T)) → Prop)
    (holds : Statements T → Database T → Prop) : Prop where
  bounds : ∀ change, may change → Frame.links.Bounds change
  waits : ∀ statements before after, Frame.links.holds before after → holds statements before →
    holds statements after
  writes : ∀ statements committed change, may change → holds statements committed →
    holds (statements ++ [change]) committed

variable {arrival : Arrival} {state : String} {known : OAuthState → Prop}
  {holds : Statements T → Database T → Prop}
  {may : (Database T → Except AppError (Database T)) → Prop}

omit [CommRing T] in
theorem Underway.waits (steady : Steady may holds) {vantage : RequestVantage T} {shared : Shared T}
    (underway : Underway arrival state known holds vantage)
    (evolves : Frame.links.holds vantage.since.committed shared.committed) :
    Underway arrival state known holds { vantage with since := shared } :=
  { underway with holds := steady.waits _ _ _ evolves underway.holds }

theorem Underway.permits {vantage : RequestVantage T}
    (underway : Underway arrival state known holds vantage) {command : Command T}
    (notCommit : command ≠ .commit) (shared : Shared T) :
    callbackDiscipline.Permits vantage command shared :=
  permits_of_inside underway.inside fun _ =>
    ⟨underway.uncommitted, fun isCommit => absurd isCommit notCommit⟩

theorem Underway.command (steady : Steady may holds) {vantage : RequestVantage T}
    (underway : Underway arrival state known holds vantage) {command : Command T}
    (clear : command.Clear state may) :
    callbackDiscipline.Permits vantage command vantage.since ∧
      Underway arrival state known holds
        (callbackDiscipline.left vantage command vantage.since) := by
  -- before the answer is known a callback does not commit
  have notCommit : command ≠ .commit := by
    intro isCommit
    rw [isCommit] at clear
    exact clear
  have bounded : command.Bounded Frame.links := by
    cases command with
    | write change => exact steady.bounds change clear.2
    | commit => exact absurd rfl notCommit
    | now | draw | redis | view | addTask => trivial
  refine ⟨underway.permits notCommit _, ?_⟩
  obtain ⟨⟨label, own⟩, log, since⟩ := vantage
  constructor
  · exact underway.label
  · exact inside_concurrently underway.inside bounded since
  · have sent := underway.sent
    cases command with
    | commit => exact absurd rfl notCommit
    | now | draw | redis | view | addTask => exact sent
    | write change =>
      simp only [callbackDiscipline, Frame.discipline, Discipline.left, Handler.labelled,
        concurrently] at sent ⊢
      cases own.sees since.committed >>= change with
      | ok => simpa [or_imp, forall_and] using ⟨sent, clear.1⟩
      | error => exact sent
  · intro entry member
    cases member with
    | head => exact notCommit
    | tail _ old => exact underway.uncommitted entry old
  · rintro payload ⟨entry, member, isGet, found⟩
    cases member with
    | tail _ old => exact underway.pops payload ⟨entry, old, isGet, found⟩
    | head =>
      change command = .redis (.get (.oauthState state)) at isGet
      rw [isGet] at clear
      exact absurd rfl clear
  · have kept := underway.holds
    cases command with
    | commit => exact absurd rfl notCommit
    | now | draw | redis | view | addTask => exact kept
    | write change =>
      have written := steady.writes _ _ change clear.2 kept
      simp only [callbackDiscipline, Frame.discipline, Discipline.left, Handler.labelled,
        concurrently] at kept written ⊢
      cases own.sees since.committed >>= change with
      | ok => exact written
      | error => exact kept

/-- The commands that are clear leave a callback underway. -/
theorem Steady.obeys (steady : Steady may holds) {α : Type} {program : App T α} {wanted : α → Prop}
    (every : program.Every (Command.Clear state may) wanted) :
    callbackDiscipline.Obeys (Underway arrival state known holds) program
      (fun value vantage => wanted value ∧ Underway arrival state known holds vantage)
      fun _ _ => True := by
  apply (Discipline.Obeys.of_every every ?_ ?_).weaken (fun _ => id) (fun _ _ => id) (by simp)
  · intro vantage shared underway evolves
    exact underway.waits steady evolves
  · intro command vantage clear underway _
    exact underway.command steady clear

theorem Steady.obeys_calls (steady : Steady may holds) {α : Type} (program : App T α)
    [calls : Calls (Command.Clear state may) program] :
    callbackDiscipline.Obeys (Underway arrival state known holds) program
      (fun _ => Underway arrival state known holds) fun _ _ => True :=
  (steady.obeys calls.every).weaken (fun _ => id) (fun _ _ => And.right) (by simp)

/-! ### Reading the state -/

/-- Nothing has been written yet. -/
def Unwritten (statements : Statements T) (_ : Database T) : Prop := statements = []

def NoStatement (_ : Database T → Except AppError (Database T)) : Prop := False

omit [CommRing T] [LinearOrder T] in
theorem steady_unwritten : Steady (T := T) NoStatement Unwritten :=
  ⟨fun _ => False.elim, fun _ _ _ _ => id, fun _ _ _ => False.elim⟩

theorem obeys_popping (provider : String) :
    callbackDiscipline.Obeys (Underway (T := T) arrival state (fun _ => False) Unwritten)
      (popState state provider) (fun payload => Underway arrival state (· = payload) Unwritten)
      fun _ _ => True := by
  have got : callbackDiscipline.Obeys (Underway (T := T) arrival state (fun _ => False) Unwritten)
      (getKey (.oauthState state)) (fun value vantage => ∀ payload, value = some (.oauth payload) →
        Underway arrival state (· = payload) Unwritten vantage) fun _ _ => True := by
    refine .call fun vantage shared underway _ _ => ⟨underway.permits (by simp) shared, ?_⟩
    intro payload found
    refine ⟨underway.label, underway.inside, underway.sent, ?_, ?_, underway.holds⟩
    · intro entry member
      cases member with
      -- the reply of this GET is the payload that the callback goes on with
      | head => simp
      | tail _ old => exact underway.uncommitted entry old
    · rintro other ⟨entry, member, isGet, isOther⟩
      cases member with
      | tail _ old => exact (underway.pops other ⟨entry, old, isGet, isOther⟩).elim
      | head =>
        change shared.redis.lookup shared.clock (.oauthState state) = some (.oauth other) at isOther
        have same := isOther.symm.trans found
        simpa using same
  unfold popState
  refine got.bind fun value => ?_
  split
  next payload =>
    have deletes : (deleteKey (.oauthState state) : App T Unit).Every
        (Command.Clear state NoStatement) fun _ => True :=
      Every.call (by simp [Command.Clear]) fun _ => trivial
    refine ((steady_unwritten.obeys deletes).enter fun _ popped => popped payload rfl).bind
      fun _ => .ite (fun _ => .throw (by simp)) fun _ => .pure fun _ => And.right
  next => exact .throw (by simp)
  next => exact .throw (by simp)

/-! ### Resolving the profile -/

/-- Nothing has been written, and the database has been seen. -/
def Seen (db : Database T) (statements : Statements T) (committed : Database T) : Prop :=
  statements = [] ∧ Frame.links.holds db committed

omit [CommRing T] [LinearOrder T] in
theorem steady_anything : Steady (T := T) Frame.links.Bounds fun _ _ => True :=
  ⟨fun _ => id, fun _ _ _ _ _ => trivial, fun _ _ _ _ _ => trivial⟩

omit [CommRing T] [LinearOrder T] in
theorem steady_settled (identity : String × String) (account : OAuthAccount T) :
    Steady Frame.accounts.Bounds (Settled identity account) where
  bounds change quiet before after changed := links_of_accounts (quiet before after changed)
  waits statements before after evolves settled := by
    cases settled with
    | found linked quiet => exact .found (evolves _ _ linked) quiet
    | linking member isIdentity => exact .linking member isIdentity
  writes statements committed change quiet settled := by
    cases settled with
    | found linked others =>
      refine .found linked fun other member => ?_
      simp only [List.mem_append, List.mem_singleton] at member
      cases member with
      | inl old => exact others other old
      | inr new => rwa [new]
    | linking member isIdentity => exact .linking (List.mem_append_left _ member) isIdentity

theorem obeys_firstView :
    callbackDiscipline.Obeys (Underway (T := T) arrival state known Unwritten) view
      (fun db => Underway arrival state known (Seen db)) fun _ _ => True := by
  refine .call fun vantage shared underway evolves _ => ?_
  have here := underway.waits steady_unwritten evolves
  refine ⟨here.permits (by simp) shared, ?_⟩
  have clear : (Command.view : Command T).Clear state NoStatement := trivial
  have kept := here.command steady_unwritten clear
  have nothing : vantage.own.2.statements = [] := here.holds
  -- without statements of its own the request sees what is committed
  have shows : vantage.own.2.sees shared.committed = .ok shared.committed := by
    simp [Transaction.sees, nothing, pure, Except.pure]
  simp only [callbackDiscipline, Frame.discipline, Handler.labelled, concurrently, shows]
  exact { kept.2 with holds := ⟨nothing, Frame.links.refl _⟩ }

omit [CommRing T] [LinearOrder T] in
theorem every_addUser (email hashedPassword fullName : String) (isVerified : Bool) :
    (addUser email hashedPassword fullName isVerified : App T (User T)).Every
      (Command.Clear state Frame.links.Bounds) fun _ => True := by
  unfold addUser
  refine Every.sequence (Every.call trivial (by simp)) fun db => ?_
  refine Every.sequence (Every.call trivial (by simp)) fun id => ?_
  refine Every.sequence (Every.call trivial (by simp)) fun createdAt => ?_
  refine Every.sequence (Every.call ?_ (by simp)) fun _ => .pure trivial
  exact ⟨.insertUser _, bounds_links (.insertUser _)⟩

omit [CommRing T] [LinearOrder T] in
theorem every_resolveUser (env : Environment T) (info : OAuthUserInfo) (payload : OAuthState) :
    (resolveUser env info payload.mode payload.linkUserId).Every
      (Command.Clear state Frame.links.Bounds) fun user => payload.Meant user.id := by
  unfold resolveUser
  split
  next userId mode started =>
    refine Every.sequence (Every.call trivial (by simp)) fun db => ?_
    split
    · exact .throw _
    next user found =>
      refine Every.pure fun _ _ => ?_
      rw [started, Table.find_key found]
  next notLinking =>
    -- a login makes nobody the owner in particular
    have free (userId : Uuid) : payload.Meant userId := by
      intro mode started
      obtain ⟨linked, isLinked⟩ := Option.isSome_iff_exists.mp started
      exact absurd isLinked (notLinking linked mode)
    split
    · exact .throw _
    next email address =>
      have looks : (getByEmail env email).Every
          (Command.Clear (T := T) state Frame.links.Bounds) fun _ => True := by
        unfold getByEmail
        refine Every.sequence (Every.call trivial (by simp)) fun db => ?_
        split
        · exact .throw _
        · exact .pure trivial
      refine looks.sequence fun owner => ?_
      cases owner with
      | some owner => exact .ite (fun _ => .pure (free _)) fun _ => .throw _
      | none =>
        refine Every.sequence (Every.call trivial (by simp)) fun passwordDraw => ?_
        refine Every.sequence (Every.call trivial (by simp)) fun salt => ?_
        exact (every_addUser _ _ _ _).mono (fun _ => id) fun user _ => free user.id

/-- The callback knows who the identity belongs to. -/
def Belongs (arrival : Arrival) (state provider : String) (payload : OAuthState)
    (info : OAuthUserInfo) (owner : Uuid) (vantage : RequestVantage T) : Prop :=
  ∃ account, account.userId = owner ∧ payload.Meant account.userId ∧
    Underway arrival state (· = payload) (Settled (provider, info.accountId) account) vantage

theorem obeys_link (account : OAuthAccount T) :
    callbackDiscipline.Obeys (Underway arrival state known fun _ _ => True)
      (write (Database.insertOAuthAccount account))
      (fun _ => Underway arrival state known
        (Settled (account.provider, account.providerAccountId) account)) fun _ _ => True := by
  refine .call fun vantage shared underway evolves _ => ?_
  have here := underway.waits steady_anything evolves
  have clear : (Command.write (Database.insertOAuthAccount account)).Clear state Frame.links.Bounds :=
    ⟨.insertOAuthAccount account, bounds_links (.insertOAuthAccount account)⟩
  obtain ⟨permits, kept⟩ := here.command steady_anything clear
  refine ⟨permits, ?_⟩
  split
  next replied =>
    refine { kept with holds := .linking ?_ rfl }
    simp only [callbackDiscipline, Frame.discipline, Discipline.left, Handler.labelled,
      concurrently] at replied ⊢
    cases changed : vantage.own.2.sees shared.committed >>= Database.insertOAuthAccount account with
    | ok => simp
    | error => simp [changed] at replied
  next => trivial

theorem obeys_resolveProfile (env : Environment T) (provider : String) (payload : OAuthState)
    (info : OAuthUserInfo) :
    callbackDiscipline.Obeys (Underway arrival state (· = payload) Unwritten)
      (resolveProfile env provider payload info)
      (fun result vantage => result.2 = payload.mode ∧
        Belongs arrival state provider payload info result.1.id vantage) fun _ _ => True := by
  simp only [resolveProfile, throw_bind]
  refine obeys_firstView.bind fun db => ?_
  split
  next account linked =>
    refine .ite (fun _ => .throw (by simp)) fun accepted => ?_
    split
    · exact .throw (by simp)
    next user found =>
      refine .pure fun vantage underway => ⟨rfl, account, (Table.find_key found).symm, ?_, ?_⟩
      · intro mode started
        by_contra different
        exact accepted ⟨mode, started, fun same => different same.symm⟩
      · obtain ⟨nothing, evolves⟩ := underway.holds
        exact { underway with holds := .found (evolves _ _ linked) (by simp [nothing]) }
  next unlinked =>
    have resolves : (resolveUser env info payload.mode payload.linkUserId).Every
        (Command.Clear (T := T) state Frame.links.Bounds) fun user => payload.Meant user.id :=
      every_resolveUser env info payload
    refine ((steady_anything.obeys resolves).enter fun _ underway =>
      { underway with holds := trivial }).bind fun user =>
      .of_fact fun meant => ?_
    have asks : (now : App T T).Every (Command.Clear state Frame.links.Bounds) fun _ => True :=
      Every.call trivial (by simp)
    refine ((steady_anything.obeys asks).weaken (fun _ => id) (fun _ _ => And.right) (by simp)).bind
      fun createdAt => ?_
    exact (obeys_link _).bind fun _ => .pure fun vantage underway => ⟨rfl, _, rfl, meant, underway⟩

/-! ### Whole callbacks -/

section
variable {key : Key}

instance : Admits (Command.Clear (T := T) state may) .now := ⟨trivial⟩
instance : Admits (Command.Clear (T := T) state may) .draw := ⟨trivial⟩
instance : Admits (Command.Clear (T := T) state may) .view := ⟨trivial⟩
instance (mail : Mail) : Admits (Command.Clear (T := T) state may) (.addTask mail) := ⟨trivial⟩

instance (session : Session T) :
    Admits (Command.Clear state Frame.accounts.Bounds) (.write (Database.insertSession session)) where
  admits := by
    refine ⟨.insertSession session, fun before after changed => ?_⟩
    obtain ⟨-, -, _, -, rfl⟩ := Database.insertSession_ok changed
    exact ⟨rfl, rfl⟩

omit [CommRing T] [LinearOrder T] in
theorem opens_clear (other : key ≠ .oauthState state) :
    Opens (Command.Clear (T := T) state may) key := by
  refine ⟨fun command isKey isGet => other ?_⟩
  rw [← isKey, isGet]
  rfl

instance (sid : Uuid) : Opens (Command.Clear (T := T) state may) (.sessionActive sid) :=
  opens_clear (by simp)

instance (limited : String) : Opens (Command.Clear (T := T) state may) (.rateLimit limited) :=
  opens_clear (by simp)

end

omit [CommRing T] [LinearOrder T] in
theorem every_userRead (env : Environment T) (user : User T) :
    (userRead env user).Every (Command.Clear state may) fun read => read.id = user.id := by
  unfold userRead
  refine Every.sequence (Every.call trivial (by simp)) fun db => ?_
  refine .ite (fun _ => .throw _) fun _ => ?_
  split
  · exact .throw _
  · exact .ite (fun _ => .throw _) fun _ => .pure rfl

variable [FloorRing T]

theorem every_finalizeLogin (env : Environment T) (request : HttpRequest) (user : User T)
    (rememberMe : Bool) :
    (finalizeLogin env request user rememberMe).Every (Command.Clear state Frame.accounts.Bounds)
      fun reply => ∃ read csrf pair, reply = .auth read csrf pair ∧ read.id = user.id := by
  unfold finalizeLogin
  refine Every.sequence (Every.call trivial (by simp)) fun sessionUuid => ?_
  refine Every.sequence (Calls.issuePair env _ _ _).every fun minted => ?_
  refine Every.sequence (Calls.createSession env _ _ _ _ _ _ _).every fun created => ?_
  have answers : (do
      let csrfDraw ← uuid4
      let read ← userRead env user
      return LoginReply.auth read (env.tokenUrlsafe csrfDraw) minted.1 : App T (LoginReply T)).Every
        (Command.Clear state Frame.accounts.Bounds)
        fun reply => ∃ read csrf pair, reply = .auth read csrf pair ∧ read.id = user.id := by
    refine Every.sequence (Every.call trivial (by simp)) fun csrfDraw => ?_
    exact (every_userRead env user).bind fun read same => .pure ⟨read, _, _, rfl, same⟩
  exact .ite (fun _ => Every.sequence (Every.call trivial (by simp)) fun _ => answers) fun _ => answers

omit [FloorRing T] in
theorem obeys_handleCallback (env : Environment T) (provider code : String) :
    callbackDiscipline.Obeys (Underway (T := T) arrival state (fun _ => False) Unwritten)
      (handleCallback env arrival.registry provider code state)
      (fun result vantage => ∃ payload info, arrival.ReportsProfile provider code payload info ∧
        result.2 = payload.mode ∧ Belongs arrival state provider payload info result.1.id vantage)
      fun _ _ => True := by
  unfold handleCallback
  refine (obeys_popping provider).bind fun payload => ?_
  simp only [providerOr404]
  cases configured : arrival.registry provider with
  | none => exact .throw (by simp)
  | some source =>
    cases exchanged : source.exchangeCode code payload.codeVerifier with
    | error => simpa only [pure_bind, exchanged, liftExcept, throw_bind] using .throw (by simp)
    | ok token =>
      cases fetched : source.fetchUserInfo token with
      | error => simpa only [pure_bind, exchanged, fetched, liftExcept, throw_bind] using .throw (by simp)
      | ok info =>
        simp only [pure_bind, exchanged, fetched, liftExcept]
        apply (obeys_resolveProfile env provider payload info).weaken (fun _ => id) ?_ (by simp)
        intro result vantage resolved
        exact ⟨payload, info, ⟨source, token, configured, exchanged, fetched⟩, resolved⟩

/-- What the answer to a login tells of the owner. -/
def OAuthState.AnsweredBy (payload : OAuthState) (owner : Uuid) (reply : LoginReply T) : Prop :=
  payload.mode = .login → ∃ user csrf pair, reply = .auth user csrf pair ∧ user.id = owner

/-- The callback has its answer, and its link is settled. -/
def Answering (arrival : Arrival) (provider code state : String) (answer : LoginReply T)
    (vantage : RequestVantage T) : Prop :=
  ∃ payload info owner, arrival.ReportsProfile provider code payload info ∧
    payload.AnsweredBy owner answer ∧ Belongs arrival state provider payload info owner vantage

theorem obeys_oauthCallback (env : Environment T) (provider code : String) :
    callbackDiscipline.Obeys (Underway (T := T) arrival state (fun _ => False) Unwritten)
      (oauthCallback env arrival.registry arrival.http provider code state)
      (Answering arrival provider code state) fun _ _ => True := by
  unfold oauthCallback
  refine (obeys_handleCallback env provider code).bind fun result => ?_
  obtain ⟨user, mode⟩ := result
  refine .ite (fun link => .pure fun vantage resolved => ?_) fun login => ?_
  · obtain ⟨payload, info, reports, sameMode, belongs⟩ := resolved
    refine ⟨payload, info, user.id, reports, fun isLogin => ?_, belongs⟩
    have both : OAuthMode.link = .login := link.symm.trans (sameMode.trans isLogin)
    cases both
  · rintro vantage ⟨payload, info, reports, -, account, isOwner, meant, underway⟩
    have steady := steady_settled (provider, info.accountId) account
    apply (steady.obeys (every_finalizeLogin env arrival.http user false)).weaken (fun _ => id) ?_
      (by simp) vantage underway
    rintro reply later ⟨answer, settled⟩
    exact ⟨payload, info, user.id, reports, fun _ => answer, account, isOwner, meant, settled⟩

/-- The identity of the callback is linked, to the user of the answer. -/
def Concluded (arrival : Arrival) (reply : Reply T) (vantage : RequestVantage T) : Prop :=
  ∀ payload identity, CallbackFor arrival vantage.log payload identity →
    ∃ account, vantage.since.committed.oauthAccounts.find identity = some account ∧
      payload.Meant account.userId ∧
      ∃ answer, reply = .login answer ∧ payload.AnsweredBy account.userId answer

omit [CommRing T] [FloorRing T] in
theorem CallbackFor.unique {provider code : String} {payload other : OAuthState}
    {info : OAuthUserInfo} {identity : String × String} {log : RequestLog T}
    (callback : CallbackFor arrival log other identity)
    (route : arrival.route = .login (.oauthCallback provider code state))
    (reports : arrival.ReportsProfile provider code payload info)
    (pops : ∀ payload', Popped state log payload' → payload' = payload) :
    other = payload ∧ identity = (provider, info.accountId) := by
  obtain ⟨otherRoute, popped, otherReports⟩ := callback
  rw [route] at otherRoute
  cases otherRoute
  obtain rfl := pops other popped
  exact ⟨rfl, by rw [reports.unique otherReports]⟩

omit [FloorRing T] in
/-- The commit of a callback. -/
theorem obeys_concluding {provider code : String}
    (route : arrival.route = .login (.oauthCallback provider code state)) (answer : LoginReply T) :
    callbackDiscipline.Obeys (Answering arrival provider code state answer) (commit : App T Unit)
      (fun _ => Concluded arrival (.login answer)) fun error _ => error ≠ .operational := by
  apply Discipline.Obeys.call
  rintro vantage shared ⟨payload, info, owner, reports, answered, account, rfl, meant, underway⟩ evolves -
  -- once settled, the account of an identity stays what it is while others commit
  have steady := steady_settled (provider, info.accountId) account
  have here := underway.waits steady evolves
  have permits : callbackDiscipline.Permits vantage .commit shared := by
    refine permits_of_inside here.inside fun _ =>
      ⟨here.uncommitted, fun _ other identity callback => ?_⟩
    rw [underway.label] at callback
    obtain ⟨rfl, rfl⟩ := callback.unique route reports here.pops
    exact ⟨account, meant, here.holds⟩
  refine ⟨permits, ?_⟩
  cases shows : vantage.own.2.sees shared.committed with
  | error error =>
    simp only [callbackDiscipline, Frame.discipline, Handler.labelled, concurrently, shows]
    exact vantage.own.2.sees_error
      (fun change member _ _ => Database.statement_error (here.sent change member)) shows
  | ok db =>
    simp only [callbackDiscipline, Frame.discipline, Handler.labelled, Discipline.left,
      concurrently, shows]
    intro other identity callback
    have pops (payload' : OAuthState)
        (popped : Popped state (⟨.commit, .ok (), shared⟩ :: vantage.log) payload') :
        payload' = payload := by
      obtain ⟨entry, member, isGet, found⟩ := popped
      cases member with
      | head => cases isGet
      | tail _ old => exact here.pops payload' ⟨entry, old, isGet, found⟩
    obtain ⟨rfl, rfl⟩ := callback.unique route reports pops
    obtain ⟨linked, -⟩ := here.holds.commits here.inside shows
    exact ⟨account, linked, meant, answer, rfl, answered⟩

theorem obeys_callback (env : Environment T) {provider code : String}
    (route : arrival.route = .login (.oauthCallback provider code state)) :
    callbackDiscipline.Obeys (Underway (T := T) arrival state (fun _ => False) Unwritten)
      (serve env arrival) (Concluded arrival) fun _ _ => True := by
  have replies : callbackDiscipline.Obeys (Underway (T := T) arrival state (fun _ => False) Unwritten)
      (Reply.login <$> oauthCallback env arrival.registry arrival.http provider code state)
      (fun reply vantage => ∃ answer, reply = .login answer ∧
        Answering arrival provider code state answer vantage) fun _ _ => True :=
    .map ((obeys_oauthCallback env provider code).weaken (fun _ => id)
      (fun answer _ answering => ⟨answer, rfl, answering⟩) (by simp))
  unfold serve
  refine (steady_unwritten.obeys_calls _).bind fun _ => ?_
  simp only [getDb, dispatch, route, serveLogin]
  refine replies.bind fun reply => ?_
  rintro vantage ⟨answer, rfl, answering⟩
  have commits := obeys_commitAfterResponse (obeys_concluding route answer)
  exact commits.bind (fun _ => .pure fun _ => id) vantage answering

/-! ## Other requests -/

instance : Liberal (T := T) (Command.Bounded Frame.links) where
  admits command _ statement := by
    cases command with
    | write change => exact bounds_links (statement change rfl)
    | redis | now | draw | view | commit | addTask => trivial

instance (key : Key) : Opens (T := T) (Command.Bounded Frame.links) key := ⟨fun _ _ => trivial⟩

omit [CommRing T] [LinearOrder T] [FloorRing T] in
theorem calls_startAuthorization (env : Environment T) (registry : String → Option Provider)
    (provider : String) (mode : OAuthMode) (linkUserId : Option Uuid) :
    Calls (Command.Bounded Frame.links)
      (startAuthorization env registry provider mode linkUserId) := by
  unfold startAuthorization; infer_instance

/-- The statements of any other request keep to the links as well. -/
theorem calls_serve (env : Environment T) (silent : arrival.route.presentedState = none) :
    Calls (Command.Bounded Frame.links) (serve env arrival) := by
  have starts := calls_startAuthorization (T := T) env arrival.registry
  have dispatched : Calls (Command.Bounded Frame.links) (dispatch env arrival) := by
    unfold dispatch
    cases routed : arrival.route with
    | refresh => exact Calls.refresh env arrival.http
    | logout => infer_instance
    | login route =>
      have other (provider code state) : route ≠ .oauthCallback provider code state := by
        intro same
        simp [routed, same, Route.presentedState] at silent
      have : Calls (Command.Bounded Frame.links)
          (serveLogin env arrival.registry arrival.http route) :=
        Calls.serveLogin env arrival.registry arrival.http route other
      infer_instance
    | openTo route =>
      have served : Calls (Command.Bounded Frame.links)
          (serveOpen env arrival.registry arrival.http route) := by
        cases route with
        | oauthAuthorize => simp only [serveOpen, oauthAuthorize]; infer_instance
        | _ => exact Calls.serveOpen env arrival.registry arrival.http _ (by simp)
      infer_instance
    | withAccess route =>
      have served (context : AuthContext T) : Calls (Command.Bounded Frame.links)
          (serveWithContext env arrival.registry arrival.http context route) := by
        cases route with
        | oauthLink => simp only [serveWithContext, oauthLink]; infer_instance
        | _ => exact Calls.serveWithContext env arrival.registry arrival.http context _ (by simp)
      unfold serveProtected
      infer_instance
  unfold serve getDb
  infer_instance

theorem obeys_other (env : Environment T) (silent : arrival.route.presentedState = none) :
    callbackDiscipline.Obeys
      (fun vantage => vantage.own.1 = arrival ∧ vantage.own.2.Inside Frame.links)
      (serve env arrival) (Concluded arrival) fun _ _ => True := by
  have stays : callbackDiscipline.Obeys
      (fun vantage => vantage.own.1 = arrival ∧ vantage.own.2.Inside Frame.links)
      (serve env arrival) (fun _ vantage => True ∧ vantage.own.1 = arrival ∧
        vantage.own.2.Inside Frame.links)
      fun _ vantage => vantage.own.1 = arrival ∧ vantage.own.2.Inside Frame.links := by
    refine .of_every (calls_serve env silent).every (fun _ _ kept _ => kept) ?_
    rintro command ⟨⟨label, own⟩, log, since⟩ bounded ⟨rfl, inside⟩ -
    exact ⟨permits_of_inside inside fun presents => by simp [silent] at presents, rfl,
      inside_concurrently inside bounded since⟩
  apply stays.weaken (fun _ => id) ?_ (by simp)
  rintro reply vantage - payload identity ⟨route, -, -⟩
  simp [route, Route.presentedState] at silent

end

end EnterpriseAuth
