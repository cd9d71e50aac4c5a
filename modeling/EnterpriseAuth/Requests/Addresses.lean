import EnterpriseAuth.Requests.ConductOfRoutes
import EnterpriseAuth.Requests.Interleaved

/-!
# The addresses that requests write

The unique column `users.email` tells addresses apart by case, and every lookup does not.  That the
two agree rests on the writers: registration, the OAuth callback and the change of address lower an
address before they write it.  The change of address lowers it when it issues the token, so that the
token that confirms the change has to be looked at too.
-/

namespace EnterpriseAuth

open Effects Program

-- an instance is found along the whole syntax of a handler
set_option synthInstance.maxSize 1000

variable {T : Type} (env : Environment T)

/-- `str.lower` is idempotent, and `lower(…)` of the database leaves its results as they are. -/
class Environment.LowersOnce : Prop where
  again : ∀ text, env.lower (env.lower text) = env.lower text
  sql : ∀ text, env.sqlLower (env.lower text) = env.lower text

/-! ## Databases -/

/-- Every stored address is lowered, that of a pending change too, and no two users share one. -/
structure Database.Normalised (db : Database T) : Prop where
  lowered : ∀ user ∈ db.users.rows, env.lower user.email = user.email
  unique : ∀ user ∈ db.users.rows, ∀ other ∈ db.users.rows, user.email = other.email →
    user.id = other.id
  pending : ∀ token ∈ db.emailTokens.rows, ∀ address, token.newEmail = some address →
    env.lower address = address

variable {env} {before after : Database T}

/-- Users that have the addresses they had before. -/
theorem normalised_of_addresses (normalised : before.Normalised env)
    (users : ∀ user ∈ after.users.rows, ∃ old ∈ before.users.rows,
      old.id = user.id ∧ old.email = user.email)
    (pending : ∀ token ∈ after.emailTokens.rows, ∀ address, token.newEmail = some address →
      env.lower address = address) : after.Normalised env where
  lowered user member := by
    obtain ⟨old, isOld, -, email⟩ := users user member
    rw [← email]
    exact normalised.lowered old isOld
  unique user member other otherMember same := by
    obtain ⟨old, isOld, id, email⟩ := users user member
    obtain ⟨otherOld, otherIsOld, otherId, otherEmail⟩ := users other otherMember
    rw [← email, ← otherEmail] at same
    rw [← id, ← otherId]
    exact normalised.unique old isOld otherOld otherIsOld same
  pending := pending

theorem normalised_of_keepsMail (keeps : before.KeepsMail after)
    (normalised : before.Normalised env) : after.Normalised env := by
  apply normalised_of_addresses normalised
  · intro user member
    have address := keeps.address user.id
    simp only [Database.address, Table.find_of_mem member, Option.map_some] at address
    -- the row with this key had the same address
    obtain ⟨old, found, same⟩ := Option.map_eq_some_iff.mp address.symm
    simp only [Prod.mk.injEq] at same
    exact ⟨old, Table.find_mem found, Table.find_key found, same.1⟩
  · rw [keeps.emailTokens]
    exact normalised.pending

theorem emailTaken_eq_false {user : User T} (free : before.emailTaken user = false) :
    ∀ other ∈ before.users.rows, other.id ≠ user.id → other.email ≠ user.email := by
  intro other member different same
  simp only [Database.emailTaken, List.any_eq_false, Bool.and_eq_true, decide_eq_true_eq,
    beq_iff_eq, not_and] at free
  exact free other member different same

/-! ## Statements -/

variable (env) in
/-- Normalised databases stay normalised. -/
def Frame.normalised : Frame T where
  holds before after := before.Normalised env → after.Normalised env
  refl _ := id
  trans first second normalised := second (first normalised)

theorem bounds_of_keepsMail {change : Database T → Except AppError (Database T)}
    (keeps : ∀ before after, change before = .ok after → before.KeepsMail after) :
    (Frame.normalised env).Bounds change := by
  intro before after changed
  exact normalised_of_keepsMail (keeps before after changed)

theorem bounds_insertUser {user : User T} (lowered : env.lower user.email = user.email) :
    (Frame.normalised env).Bounds (Database.insertUser user) := by
  intro before after changed normalised
  obtain ⟨-, free, users, inserted, rfl⟩ := Database.insertUser_ok changed
  obtain ⟨fresh, rows⟩ := Table.insert_eq_some inserted
  have free := emailTaken_eq_false free
  have others : ∀ other ∈ before.users.rows, other.email ≠ user.email := by
    intro other member
    apply free other member
    intro same
    rw [← same, Table.find_of_mem member] at fresh
    cases fresh
  constructor
  · intro row member
    simp only [rows, List.mem_append, List.mem_singleton] at member
    rcases member with old | rfl
    · exact normalised.lowered row old
    · exact lowered
  · intro row member other otherMember same
    simp only [rows, List.mem_append, List.mem_singleton] at member otherMember
    rcases member with old | rfl
    · rcases otherMember with otherOld | rfl
      · exact normalised.unique row old other otherOld same
      · exact absurd same (others row old)
    · rcases otherMember with otherOld | rfl
      · exact absurd same.symm (others other otherOld)
      · rfl
  · exact normalised.pending

/-- An update that writes no address but a lowered one; the constraint checks it against the rest. -/
theorem bounds_updateUser {id : Uuid} {change : User T → User T} {keeps}
    (lowers : ∀ user, env.lower user.email = user.email →
      env.lower (change user).email = (change user).email) :
    (Frame.normalised env).Bounds (Database.updateUser id change keeps) := by
  intro before after changed normalised
  obtain ⟨stored, found, -, free, rfl⟩ := Database.updateUser_ok changed
  have free := emailTaken_eq_false free
  rw [keeps stored, Table.find_key found] at free
  have isStored {user : User T} (member : user ∈ before.users.rows) (key : user.id = id) :
      user = stored := by
    have same := Table.find_of_mem member
    rw [key, found] at same
    exact (Option.some.inj same).symm
  have rows {user : User T} (member : user ∈ (before.users.modify id change keeps).rows) :
      ∃ old ∈ before.users.rows, (if old.id = id then change old else old) = user :=
    List.mem_map.mp member
  constructor
  · intro user member
    obtain ⟨old, isOld, rfl⟩ := rows member
    split
    · exact lowers old (normalised.lowered old isOld)
    · exact normalised.lowered old isOld
  · intro user member other otherMember same
    obtain ⟨old, isOld, rfl⟩ := rows member
    obtain ⟨otherOld, otherIsOld, rfl⟩ := rows otherMember
    by_cases key : old.id = id
    · by_cases otherKey : otherOld.id = id
      · simp [key, otherKey, keeps]
      · -- the constraint has compared the new address with this one
        rw [if_pos key, if_neg otherKey, isStored isOld key] at same
        exact absurd same.symm (free otherOld otherIsOld otherKey)
    · by_cases otherKey : otherOld.id = id
      · rw [if_neg key, if_pos otherKey, isStored otherIsOld otherKey] at same
        exact absurd same (free old isOld key)
      · simp only [key, otherKey, if_false] at same ⊢
        exact normalised.unique old isOld otherOld otherIsOld same
  · exact normalised.pending

theorem bounds_insertEmailToken {token : EmailToken T}
    (lowered : ∀ address, token.newEmail = some address → env.lower address = address) :
    (Frame.normalised env).Bounds (Database.insertEmailToken token) := by
  intro before after changed normalised
  obtain ⟨-, -, tokens, inserted, rfl⟩ := Database.insertEmailToken_ok changed
  refine ⟨normalised.lowered, normalised.unique, fun other member => ?_⟩
  simp only [(Table.insert_eq_some inserted).2, List.mem_append, List.mem_singleton] at member
  rcases member with old | rfl
  · exact normalised.pending other old
  · exact lowered

theorem bounds_updateEmailToken {hash : String} {change : EmailToken T → EmailToken T} {keeps}
    (same : ∀ token, (change token).newEmail = token.newEmail) :
    (Frame.normalised env).Bounds (Database.updateEmailToken hash change keeps) := by
  intro before after changed normalised
  obtain ⟨-, -, rfl⟩ := Database.updateEmailToken_ok changed
  refine ⟨normalised.lowered, normalised.unique, fun token member => ?_⟩
  obtain ⟨old, isOld, rfl⟩ := List.mem_map.mp member
  split
  · rw [same]
    exact normalised.pending old isOld
  · exact normalised.pending old isOld

theorem bounds_deleteEmailTokens (userId : Uuid) (purpose : Purpose) :
    (Frame.normalised env).Bounds (Database.deleteEmailTokens userId purpose) := by
  intro before after changed normalised
  cases changed
  exact ⟨normalised.lowered, normalised.unique, fun token member =>
    normalised.pending token (List.mem_of_mem_filter member)⟩

/-! ## Programs -/

variable (env) in
/-- The program writes no address that is not lowered, whatever it finds. -/
class Lowers {α : Type} (program : App T α) : Prop where
  every : program.Every (Command.Bounded (Frame.normalised env)) fun _ => True

theorem bounded_of_allowed {command : Command T} (allowed : command.Allowed .mailless) :
    command.Bounded (Frame.normalised env) := by
  cases command with
  | write change =>
    apply bounds_of_keepsMail
    intro before after changed
    exact (allowed before after changed).2.1.resolve_left id
  | now | draw | redis | view | commit | addTask => trivial

namespace Lowers

variable {α β : Type}

/-- A program that leaves addresses alone. -/
instance (priority := low) of_conducts {program : App T α} [conducts : Conducts .mailless program] :
    Lowers env program :=
  ⟨conducts.every.mono (fun _ => bounded_of_allowed) fun _ => id⟩

instance bind {program : App T α} {rest : α → App T β} [first : Lowers env program]
    [second : ∀ value, Lowers env (rest value)] : Lowers env (program >>= rest) :=
  ⟨first.every.sequence fun value => (second value).every⟩

/-- The bind rule for a continuation that is examined by hand. -/
theorem sequence {program : App T α} {rest : α → App T β} [Lowers env program]
    (second : ∀ value, Lowers env (rest value)) : Lowers env (program >>= rest) :=
  bind

instance map {transform : α → β} {program : App T α} [first : Lowers env program] :
    Lowers env (transform <$> program) :=
  ⟨Every.map first.every⟩

instance ite {condition : Prop} [Decidable condition] {first second : App T α}
    [holds : Lowers env first] [fails : Lowers env second] :
    Lowers env (if condition then first else second) :=
  ⟨Every.ite (fun _ => holds.every) fun _ => fails.every⟩

theorem of_bounds {change : Database T → Except AppError (Database T)}
    (bounds : (Frame.normalised env).Bounds change) : Lowers env (write change : App T Unit) :=
  ⟨Every.call bounds fun _ => trivial⟩

instance addLetter (mail : Mail) : Lowers env (addTask mail : App T Unit) :=
  ⟨Every.call trivial fun _ => trivial⟩

instance updateVerified (id : Uuid) (isVerified : Bool) (keeps) :
    Lowers env
      (write (Database.updateUser id (fun user : User T => { user with isVerified }) keeps)) :=
  of_bounds (bounds_updateUser fun _ lowered => lowered)

/-! ### Registration -/

theorem addUser {email : String} (lowered : env.lower email = email)
    (hashedPassword fullName : String) (isVerified : Bool) :
    Lowers env (addUser email hashedPassword fullName isVerified : App T (User T)) := by
  have insert (user : User T) (isEmail : user.email = email) :
      Lowers env (write (Database.insertUser user)) := by
    apply of_bounds
    apply bounds_insertUser
    rw [isEmail, lowered]
  unfold EnterpriseAuth.addUser
  refine sequence fun db => sequence fun id => sequence fun createdAt => ?_
  exact ⟨(insert _ rfl).every.sequence fun _ => trivial⟩

section
variable [once : env.LowersOnce]

instance addLowered (email hashedPassword fullName : String) (isVerified : Bool) :
    Lowers env (EnterpriseAuth.addUser (env.lower email) hashedPassword fullName isVerified :
      App T (User T)) :=
  addUser (once.again email) hashedPassword fullName isVerified

instance registerUser (email password fullName : String) :
    Lowers env (AuthService.register env email password fullName) := by
  simp only [AuthService.register, throw_bind]
  infer_instance

/-! ### OAuth -/

section
open OAuthService
variable (registry : String → Option Provider)

instance resolveUser (info : OAuthUserInfo) (mode : OAuthMode) (linkUserId : Option Uuid) :
    Lowers env (resolveUser env info mode linkUserId) := by
  simp only [OAuthService.resolveUser]
  split
  · refine sequence fun db => ?_
    split <;> infer_instance
  · split
    · infer_instance
    · refine sequence fun existing => ?_
      split <;> infer_instance

instance resolveProfile (provider : String) (payload : OAuthState) (info : OAuthUserInfo) :
    Lowers env (resolveProfile env provider payload info) := by
  simp only [OAuthService.resolveProfile, throw_bind]
  refine sequence fun db => ?_
  split
  · split
    · infer_instance
    · split <;> infer_instance
  · infer_instance

instance handleCallback (provider code state : String) :
    Lowers env (handleCallback env registry provider code state) := by
  unfold OAuthService.handleCallback
  infer_instance

end

/-! ### Email flows -/

section
open EmailAccountService
variable (user : User T)

instance deleteTokens (userId : Uuid) (purpose : Purpose) :
    Lowers env (write (Database.deleteEmailTokens userId purpose) : App T Unit) :=
  of_bounds (bounds_deleteEmailTokens userId purpose)

instance markUsed (hash : String) (now : T) (keeps) :
    Lowers env (write (Database.updateEmailToken hash
      (fun token => { token with usedAt := some now }) keeps)) :=
  of_bounds (bounds_updateEmailToken fun _ => rfl)

variable [CommRing T]

omit once in
theorem issue {newEmail : Option String}
    (lowered : ∀ address, newEmail = some address → env.lower address = address)
    (purpose : Purpose) (ttlSeconds : ℕ) :
    Lowers env (issue env user purpose ttlSeconds newEmail) := by
  have insert (token : EmailToken T) (isAddress : token.newEmail = newEmail) :
      Lowers env (write (Database.insertEmailToken token)) := by
    apply of_bounds
    apply bounds_insertEmailToken
    rwa [isAddress]
  unfold EmailAccountService.issue
  refine sequence fun _ => sequence fun draw => sequence fun now => ?_
  exact ⟨(insert _ rfl).every.sequence fun _ => trivial⟩

omit once in
/-- A token for another purpose than a change of address. -/
instance issuePlain (purpose : Purpose) (ttlSeconds : ℕ) :
    Lowers env (EmailAccountService.issue env user purpose ttlSeconds none) :=
  issue user (by simp) purpose ttlSeconds

instance issueLowered (purpose : Purpose) (ttlSeconds : ℕ) (newEmail : String) :
    Lowers env (EmailAccountService.issue env user purpose ttlSeconds (some (env.lower newEmail))) :=
  issue user (by simp [once.again]) purpose ttlSeconds

instance requestEmailChange (newEmail password : String) :
    Lowers env (requestEmailChange env user newEmail password) := by
  simp only [EmailAccountService.requestEmailChange, throw_bind]
  infer_instance

variable [LinearOrder T]

instance consume (raw : String) (purpose : Purpose) : Lowers env (consume env raw purpose) := by
  simp only [EmailAccountService.consume, throw_bind]
  refine sequence fun db => ?_
  split <;> infer_instance

end

/-! ### Routes -/

section
variable [CommRing T] [LinearOrder T] (request : HttpRequest)

instance verifyEmailRoute (raw : String) : Lowers env (EnterpriseAuth.verifyEmail env raw) := by
  unfold EnterpriseAuth.verifyEmail
  have service : Lowers env (EmailAccountService.verifyEmail env raw) := by
    unfold EmailAccountService.verifyEmail
    refine sequence fun token => sequence fun db => ?_
    split <;> infer_instance
  infer_instance

instance forgotPasswordRoute (email : String) :
    Lowers env (EnterpriseAuth.forgotPassword env request email) := by
  unfold EnterpriseAuth.forgotPassword
  have service (email : String) : Lowers env (EmailAccountService.requestPasswordReset env email) := by
    unfold EmailAccountService.requestPasswordReset
    refine sequence fun found => ?_
    split <;> infer_instance
  infer_instance

instance resetPasswordRoute (raw newPassword : String) :
    Lowers env (EnterpriseAuth.resetPassword env request raw newPassword) := by
  unfold EnterpriseAuth.resetPassword
  have service : Lowers env (EmailAccountService.resetPassword env raw newPassword) := by
    unfold EmailAccountService.resetPassword
    refine sequence fun _ => sequence fun token => sequence fun db => ?_
    split <;> infer_instance
  infer_instance

variable (registry : String → Option Provider) (context : AuthContext T)

instance resendVerificationRoute : Lowers env (EnterpriseAuth.resendVerification env context) := by
  unfold EnterpriseAuth.resendVerification EmailAccountService.resendVerification
  simp only [throw_bind]
  infer_instance

instance changeEmailRoute (newEmail password : String) :
    Lowers env (EnterpriseAuth.changeEmail env context newEmail password) := by
  unfold EnterpriseAuth.changeEmail
  infer_instance

theorem serveWithContext (route : ProtectedRoute) :
    Lowers env (serveWithContext env registry request context route) := by
  cases sends : route.sendsTokens with
  | false =>
    have conducts : Conducts .mailless
        (EnterpriseAuth.serveWithContext env registry request context route) :=
      conducts_serveWithContext env registry request context (fun _ => trivial) (by simp [sends])
        fun _ => trivial
    infer_instance
  | true =>
    cases route with
    | resendVerification =>
      simp only [EnterpriseAuth.serveWithContext]
      infer_instance
    | changeEmail =>
      simp only [EnterpriseAuth.serveWithContext]
      infer_instance
    | _ => cases sends

instance serveProtected (route : ProtectedRoute) :
    Lowers env (serveProtected env registry request route) := by
  have served (context : AuthContext T) :
      Lowers env (EnterpriseAuth.serveWithContext env registry request context route) :=
    serveWithContext request registry context route
  unfold EnterpriseAuth.serveProtected
  infer_instance

variable [FloorRing T]

instance registerRoute (payload : RegisterRequest) :
    Lowers env (register env request payload) := by
  unfold EnterpriseAuth.register EmailAccountService.sendSignupEmails
  infer_instance

instance oauthCallbackRoute (provider code state : String) :
    Lowers env (oauthCallback env registry request provider code state) := by
  unfold EnterpriseAuth.oauthCallback
  infer_instance

instance serveLogin (route : LoginRoute) : Lowers env (serveLogin env registry request route) := by
  cases route <;> (simp only [EnterpriseAuth.serveLogin]; infer_instance)

end

end

end Lowers

/-! ## Requests that take turns -/

section
variable [CommRing T] [LinearOrder T]

variable (env) in
def addressDiscipline :
    Discipline (Command T) Command.Res AppError (Arrival × Transaction T) (Shared T) :=
  (Frame.normalised env).discipline fun _ _ _ _ _ => True

variable (env) in
/-- What a request finds is normalised, and so is what its transaction makes of it. -/
structure Tidy (vantage : RequestVantage T) : Prop where
  inside : vantage.own.2.Inside (Frame.normalised env)
  committed : vantage.since.committed.Normalised env

theorem Tidy.command {vantage : RequestVantage T} (tidy : Tidy env vantage) {command : Command T}
    (bounded : command.Bounded (Frame.normalised env)) :
    (addressDiscipline env).Permits vantage command vantage.since ∧
      Tidy env ((addressDiscipline env).left vantage command vantage.since) :=
  ⟨permits_of_inside tidy.inside trivial, inside_concurrently tidy.inside bounded vantage.since,
    frame_concurrently tidy.inside command vantage.since tidy.committed⟩

variable {α : Type}

theorem tidy_of_every {program : App T α} {wanted : α → Prop}
    (every : program.Every (Command.Bounded (Frame.normalised env)) wanted) :
    (addressDiscipline env).Obeys (Tidy env) program
      (fun value vantage => wanted value ∧ Tidy env vantage) fun _ => Tidy env := by
  apply Discipline.Obeys.of_every every
  · intro vantage shared tidy evolves
    exact ⟨tidy.inside, evolves tidy.committed⟩
  · intro command vantage bounded tidy _
    exact tidy.command bounded

theorem tidy_of_lowers (program : App T α) [lowers : Lowers env program] :
    (addressDiscipline env).Obeys (Tidy env) program (fun _ => Tidy env) fun _ => Tidy env :=
  (tidy_of_every lowers.every).weaken (fun _ => id) (fun _ _ => And.right) fun _ _ => id

theorem tidy_view :
    (addressDiscipline env).Obeys (Tidy env) view
      (fun db vantage => db.Normalised env ∧ Tidy env vantage) fun _ => Tidy env := by
  apply Discipline.Obeys.call
  intro vantage shared tidy evolves _
  have here : Tidy env { vantage with since := shared } := ⟨tidy.inside, evolves tidy.committed⟩
  have viewed : (Command.view : Command T).Bounded (Frame.normalised env) := trivial
  obtain ⟨permits, kept⟩ := here.command viewed
  refine ⟨permits, ?_⟩
  split
  next db replied => exact ⟨tidy.inside.sees replied here.committed, kept⟩
  next => exact kept

/-- The address that a consumed token carries is lowered. -/
theorem tidy_consume (raw : String) (purpose : Purpose) :
    (addressDiscipline env).Obeys (Tidy env) (EmailAccountService.consume env raw purpose)
      (fun token vantage => (∀ address, token.newEmail = some address → env.lower address = address) ∧
        Tidy env vantage) fun _ => Tidy env := by
  simp only [EmailAccountService.consume, throw_bind]
  refine tidy_view.bind fun db => Discipline.Obeys.of_fact fun normalised => ?_
  split
  next => exact Discipline.Obeys.throw fun _ => id
  next token found =>
    have lowered := normalised.pending token (Table.find_mem found)
    apply tidy_of_every
    apply Every.ite
    · intro _
      exact Every.throw _
    · intro _
      have reads : Lowers env (now : App T T) := inferInstance
      refine reads.every.sequence fun now => Every.ite (fun _ => Every.throw _) fun _ => ?_
      exact (Lowers.markUsed token.tokenHash now fun _ => rfl).every.sequence fun _ => lowered

theorem tidy_confirmEmailChange (raw : String) :
    (addressDiscipline env).Obeys (Tidy env) (EmailAccountService.confirmEmailChange env raw)
      (fun _ => Tidy env) fun _ => Tidy env := by
  simp only [EmailAccountService.confirmEmailChange, throw_bind]
  refine (tidy_consume raw .changeEmail).bind fun token => Discipline.Obeys.of_fact fun lowered => ?_
  refine (tidy_of_lowers view).bind fun db => ?_
  split
  next user address _ isAddress =>
    have update : Lowers env (write (Database.updateUser user.id
        (fun user => { user with email := address, isVerified := true }) fun _ => rfl)) :=
      .of_bounds (bounds_updateUser fun _ _ => lowered address isAddress)
    exact tidy_of_lowers _
  next => exact Discipline.Obeys.throw fun _ => id

theorem tidy_serveOpen (registry : String → Option Provider) (request : HttpRequest) (route : OpenRoute) :
    (addressDiscipline env).Obeys (Tidy env) (serveOpen env registry request route)
      (fun _ => Tidy env) fun _ => Tidy env := by
  cases route with
  | confirmEmailChange raw =>
    simp only [serveOpen, confirmEmailChange]
    refine (tidy_of_lowers _).bind fun _ => ?_
    exact (tidy_confirmEmailChange raw).bind fun _ => Discipline.Obeys.pure fun _ => id
  | verifyEmail | forgotPassword | resetPassword =>
    simp only [serveOpen]
    exact tidy_of_lowers _
  | oauthAuthorize =>
    simp only [serveOpen, oauthAuthorize]
    exact tidy_of_lowers _

variable [FloorRing T] [env.LowersOnce]

/-- No request writes an address that is not lowered, whoever has its turn in between. -/
theorem tidy_serve (arrival : Arrival) :
    (addressDiscipline env).Obeys (Tidy env) (serve env arrival) (fun _ => Tidy env)
      fun _ => Tidy env := by
  have dispatched : (addressDiscipline env).Obeys (Tidy env) (dispatch env arrival)
      (fun _ => Tidy env) fun _ => Tidy env := by
    unfold dispatch
    split
    · apply tidy_of_lowers
    · apply tidy_of_lowers
    · apply tidy_of_lowers
    · apply Discipline.Obeys.map
      apply tidy_serveOpen
    · apply tidy_of_lowers
  unfold serve getDb
  refine (tidy_of_lowers _).bind fun _ => ?_
  exact dispatched.bind fun _ => tidy_of_lowers _

end

end EnterpriseAuth
