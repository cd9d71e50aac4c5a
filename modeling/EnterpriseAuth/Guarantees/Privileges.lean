import EnterpriseAuth.Guarantees.RbacSeeding
import EnterpriseAuth.Guarantees.Scenario
import EnterpriseAuth.Requests.Framed

/-!
# Privileges

Roles are seeded and assigned outside the API.  However requests take turns, none of them changes a
role, the roles of a user or the superuser flag, and a user who signs up gets the default role and
nothing else.  So nobody gains a permission by using the API.
-/

namespace EnterpriseAuth

open Effects Program

variable {T ι : Type}

/-! ## Databases -/

/-- Nobody's privileges have changed, and users who are new have the default role at most. -/
structure Database.KeepsPrivileges (before after : Database T) : Prop where
  roles : after.roles = before.roles
  kept : ∀ id old, before.users.find id = some old →
    ∃ user, after.users.find id = some user ∧ user.roles = old.roles ∧
      user.isSuperuser = old.isSuperuser
  newcomers : ∀ id user, after.users.find id = some user → before.users.find id = none →
    (user.roles = [] ∨ user.roles = ["user"]) ∧ user.isSuperuser = false

/-- What the owner of the id may do by the users and roles of the database, and everybody who is not
there by the default role. -/
def Database.Entitles (db : Database T) (id : Uuid) (code : String) : Prop :=
  match db.users.find id with
  | some user => db.hasPermission user code = true
  | none => ∃ role, db.roles.find "user" = some role ∧ code ∈ role.permissions

variable {before after initial : Database T}

theorem keepsPrivileges_of_same (roles : after.roles = before.roles)
    (users : after.users = before.users) : before.KeepsPrivileges after where
  roles := roles
  kept id old found := ⟨old, by rw [users, found], rfl, rfl⟩
  newcomers id user found absent := by
    rw [users, absent] at found
    cases found

theorem Database.KeepsPrivileges.trans {middle : Database T} (first : before.KeepsPrivileges middle)
    (second : middle.KeepsPrivileges after) : before.KeepsPrivileges after where
  roles := second.roles.trans first.roles
  kept id old found := by
    obtain ⟨user, foundMiddle, roles, superuser⟩ := first.kept id old found
    obtain ⟨last, foundLast, rolesLast, superuserLast⟩ := second.kept id user foundMiddle
    exact ⟨last, foundLast, rolesLast.trans roles, superuserLast.trans superuser⟩
  newcomers id user found absent := by
    cases foundMiddle : middle.users.find id with
    | none => exact second.newcomers id user found foundMiddle
    | some row =>
      -- a newcomer of the first step keeps what it was given
      obtain ⟨roles, superuser⟩ := first.newcomers id row foundMiddle absent
      obtain ⟨last, foundLast, rolesLast, superuserLast⟩ := second.kept id row foundMiddle
      rw [found] at foundLast
      cases foundLast
      rw [rolesLast, superuserLast]
      exact ⟨roles, superuser⟩

/-- A user who is found later may do what the first database entitles to. -/
theorem entitles_of_kept {db seen : Database T} (keeps : initial.KeepsPrivileges seen)
    (roles : db.roles = initial.roles) {id : Uuid} {user : User T} {code : String}
    (found : seen.users.find id = some user) (permitted : db.hasPermission user code = true) :
    initial.Entitles id code := by
  have codes (other : User T) (same : user.roles = other.roles) :
      db.permissionCodes user = initial.permissionCodes other := by
    simp only [Database.permissionCodes, roles, same]
  unfold Database.Entitles
  cases foundOld : initial.users.find id with
  | some old =>
    obtain ⟨row, foundRow, sameRoles, superuser⟩ := keeps.kept id old foundOld
    rw [found] at foundRow
    cases foundRow
    simpa only [Database.hasPermission, codes old sameRoles, superuser] using permitted
  | none =>
    obtain ⟨assigned, superuser⟩ := keeps.newcomers id user found foundOld
    simp only [Database.hasPermission, superuser, Bool.false_or, List.contains_iff_mem,
      Database.permissionCodes, List.mem_flatMap] at permitted
    obtain ⟨name, held, granted⟩ := permitted
    rcases assigned with none | default
    · simp [none] at held
    · obtain rfl : name = "user" := by simpa [default] using held
      rw [roles] at granted
      cases role : initial.roles.find "user" with
      | none => simp [role] at granted
      | some role' => exact ⟨role', rfl, by simpa [role] using granted⟩

/-! ## Statements -/

def Frame.privileges : Frame T where
  holds := Database.KeepsPrivileges
  refl _ := keepsPrivileges_of_same rfl rfl
  trans := Database.KeepsPrivileges.trans

theorem bounds_insertUnprivileged {user : User T} (unprivileged : user.Unprivileged) :
    Frame.privileges.Bounds (Database.insertUser user) := by
  intro before after changed
  obtain ⟨-, -, users, inserted, rfl⟩ := Database.insertUser_ok changed
  constructor
  · rfl
  · intro id old found
    exact ⟨old, Table.find_insert_of_found inserted found, rfl, rfl⟩
  · intro id row found absent
    rw [Table.find_insert inserted] at found
    split at found
    · cases found
      exact ⟨unprivileged.roles, unprivileged.isSuperuser⟩
    · rw [absent] at found
      cases found

/-- An update that does not write the privileges. -/
theorem bounds_updateOrdinary {id : Uuid} {change : User T → User T} {keeps}
    (same : ∀ user, (change user).roles = user.roles ∧
      (change user).isSuperuser = user.isSuperuser) :
    Frame.privileges.Bounds (Database.updateUser id change keeps) := by
  intro before after changed
  obtain ⟨-, -, -, -, rfl⟩ := Database.updateUser_ok changed
  constructor
  · rfl
  · intro other old found
    simp only [Table.find_modify, found]
    split
    · exact ⟨change old, rfl, same old⟩
    · exact ⟨old, rfl, rfl, rfl⟩
  · intro other user found absent
    simp only [Table.find_modify, absent] at found
    split at found <;> cases found

instance : Modest (T := T) (Command.Bounded Frame.privileges) := by
  apply Frame.modest
  intro change statement spares before after changed
  exact keepsPrivileges_of_same (Database.roles_statement statement changed)
    (spares.users before after changed)

instance : Enrols (T := T) (Command.Bounded Frame.privileges) :=
  ⟨fun _ => bounds_insertUnprivileged⟩

instance (hashedPassword : String) :
    Updates (T := T) (Command.Bounded Frame.privileges) fun user => { user with hashedPassword } :=
  ⟨fun _ _ => bounds_updateOrdinary fun _ => ⟨rfl, rfl⟩⟩

instance (isVerified : Bool) :
    Updates (T := T) (Command.Bounded Frame.privileges) fun user => { user with isVerified } :=
  ⟨fun _ _ => bounds_updateOrdinary fun _ => ⟨rfl, rfl⟩⟩

instance (email : String) (isVerified : Bool) :
    Updates (T := T) (Command.Bounded Frame.privileges) fun user => { user with email, isVerified } :=
  ⟨fun _ _ => bounds_updateOrdinary fun _ => ⟨rfl, rfl⟩⟩

/-! ## The list of the users -/

section
variable [CommRing T] [LinearOrder T] {env : Environment T}

/-- The caller presents an access token of a user whom the first database entitles. -/
def Arrival.Entitled (arrival : Arrival) (initial : Database T) (code : String) : Prop :=
  ∃ claims, arrival.http.accessToken = some (.signed claims) ∧ initial.Entitles claims.sub code

/-- The context is that of the presented token, with the row of its subject. -/
def AuthContext.Found (context : AuthContext T) (request : HttpRequest) (initial : Database T) : Prop :=
  ∃ claims seen, request.accessToken = some (.signed claims) ∧ initial.KeepsPrivileges seen ∧
    seen.users.find claims.sub = some context.user

theorem kept_getAuthContext (request : HttpRequest) :
    Frame.privileges.plain.Obeys (Frame.privileges.Kept initial) (getAuthContext env request)
      (fun context vantage => context.Found request initial ∧ Frame.privileges.Kept initial vantage)
      fun _ => Frame.privileges.Kept initial := by
  unfold getAuthContext
  split
  next => exact .throw fun _ => id
  next token presented =>
    cases token with
    | unsigned text =>
      -- `verify_access` returns nothing for a text that was not signed
      have verified : (TokenService.verifyAccess (.unsigned text) : App T Claims).Every
          (Command.Bounded Frame.privileges) fun _ => False := by
        unfold TokenService.verifyAccess decodeToken
        exact Every.tryCatch (.throw _) fun _ => .ite (fun _ => .throw _) fun _ => .throw _
      exact (kept_of_every verified).bind fun payload => .of_fact False.elim
    | signed claims =>
      have verified : (TokenService.verifyAccess (.signed claims) : App T Claims).Every
          (Command.Bounded Frame.privileges) (· = claims) := by
        unfold TokenService.verifyAccess decodeToken
        refine Every.tryCatch (Every.bind (Every.call trivial fun _ => trivial) fun instant _ => ?_)
          fun _ => .ite (fun _ => .throw _) fun _ => .throw _
        exact .ite (fun _ => .throw _) fun _ => .ite (fun _ => .throw _) fun _ => .pure rfl
      refine (kept_of_every verified).bind fun payload => .of_fact ?_
      rintro rfl
      refine kept_view.bind fun db => .of_fact fun keeps => ?_
      split
      next => exact .throw fun _ => id
      next user found =>
        have isFound (session : Option (Session T)) :
            AuthContext.Found ⟨user, session⟩ request initial :=
          ⟨payload, db, presented, keeps, found⟩
        simp only [throw_bind]
        refine .ite (fun _ => .throw fun _ => id) fun _ => ?_
        split
        · exact .pure fun _ kept => ⟨isFound none, kept⟩
        · exact (kept_of_calls _).bind fun session => .pure fun _ kept => ⟨isFound _, kept⟩

theorem kept_requirePermission {request : HttpRequest} {context : AuthContext T}
    (found : context.Found request initial) (code : String) :
    Frame.privileges.plain.Obeys (Frame.privileges.Kept initial) (requirePermission context code)
      (fun _ vantage => (∃ claims, request.accessToken = some (.signed claims) ∧
        initial.Entitles claims.sub code) ∧ Frame.privileges.Kept initial vantage)
      fun _ => Frame.privileges.Kept initial := by
  obtain ⟨claims, seen, presented, keeps, isUser⟩ := found
  unfold requirePermission
  refine kept_view.bind fun db => .of_fact fun keepsDb => .ite (fun _ => .throw fun _ => id) ?_
  intro permitted
  have entitled := entitles_of_kept keeps keepsDb.roles isUser (by simpa using permitted)
  exact .pure fun _ kept => ⟨⟨claims, presented, entitled⟩, kept⟩

theorem kept_serveListUsers [FloorRing T] {arrival : Arrival} {limit offset : ℕ}
    (route : arrival.route = .withAccess (.listUsers limit offset)) :
    Frame.privileges.plain.Obeys (Frame.privileges.Kept initial) (dispatch env arrival)
      (fun _ vantage => arrival.Entitled initial "manage_users" ∧
        Frame.privileges.Kept initial vantage)
      fun _ => Frame.privileges.Kept initial := by
  have guarded (context : AuthContext T) (found : context.Found arrival.http initial) :
      Frame.privileges.plain.Obeys (Frame.privileges.Kept initial) (listUsers env context limit offset)
        (fun _ vantage => arrival.Entitled initial "manage_users" ∧
          Frame.privileges.Kept initial vantage)
        fun _ => Frame.privileges.Kept initial := by
    unfold listUsers
    refine (kept_requirePermission found _).bind fun _ => .of_fact fun entitled => ?_
    exact (kept_of_calls _).weaken (fun _ => id) (fun _ _ kept => ⟨entitled, kept⟩) fun _ _ => id
  simp only [dispatch, route, serveProtected, serveWithContext]
  exact .map ((kept_getAuthContext arrival.http).bind fun context => .of_fact (guarded context))

end

/-! ## Runs -/

section
variable [CommRing T] [LinearOrder T] [FloorRing T] [DecidableEq ι] (env : Environment T)

/-- Requests that begin on the database, in all interleavings, while others change no privileges. -/
def privilegedRequests (initial : Database T) (arrivals : ι → Arrival) :
    System (RequestPool ι T) (Option ι) :=
  requests env (fun before after => before.committed.KeepsPrivileges after.committed)
    (·.committed = initial) arrivals

variable {env} {arrivals : ι → Arrival} {pool : RequestPool ι T}

/-- No request changes the privileges of anyone, and whoever has a permission was entitled to it
before the requests began. -/
theorem no_escalation (reachable : (privilegedRequests env initial arrivals).Reachable pool) :
    initial.KeepsPrivileges pool.shared.committed ∧
      ∀ id user code, pool.shared.committed.users.find id = some user →
        pool.shared.committed.hasPermission user code = true → initial.Entitles id code := by
  have obeys (i : ι) : Frame.privileges.plain.Obeys (Frame.privileges.Kept initial)
      (serve env (arrivals i)) (fun _ _ => True) fun _ => Frame.privileges.Kept initial :=
    (kept_of_calls (serve env (arrivals i))).weaken (fun _ => id) (fun _ _ _ => trivial) fun _ _ => id
  obtain ⟨⟨keeps, -⟩, -⟩ := Frame.reachable reachable obeys fun _ _ => id
  exact ⟨keeps, fun id user code found permitted =>
    entitles_of_kept keeps keeps.roles found permitted⟩

/-- The users are listed to those only who may manage them. -/
theorem users_listed_to_managers
    (reachable : (privilegedRequests env initial arrivals).Reachable pool) {i : ι} {limit offset : ℕ}
    (route : (arrivals i).route = .withAccess (.listUsers limit offset)) {reply : Reply T}
    (returned : (pool.threads i).program = .pure reply) :
    (arrivals i).Entitled initial "manage_users" := by
  have obeys (j : ι) : Frame.privileges.plain.Obeys (Frame.privileges.Kept initial)
      (serve env (arrivals j))
      (fun _ _ => j = i → (arrivals i).Entitled initial "manage_users")
      fun _ => Frame.privileges.Kept initial := by
    by_cases same : j = i
    · subst same
      unfold serve getDb
      refine (kept_of_calls _).bind fun _ => (kept_serveListUsers route).bind fun answer => ?_
      refine .of_fact fun entitled => ?_
      exact (kept_of_calls _).weaken (fun _ => id) (fun _ _ _ _ => entitled) fun _ _ => id
    · exact (kept_of_calls _).weaken (fun _ => id) (fun _ _ _ equal => absurd equal same)
        fun _ _ => id
  obtain ⟨-, orderly⟩ := Frame.reachable reachable obeys fun _ _ => id
  obtain ⟨-, -, entitled⟩ := orderly.returned returned
  exact entitled rfl

end

/-! ## A manager and a newcomer -/

/-- Alice is a superuser. -/
def aliceManages : Shared ℚ :=
  let registered := World.new.play demo [.request registerAlice]
  { registered.shared with
    committed := { registered.db with
      users := registered.db.users.modify 1 (fun user => { user with isSuperuser := true })
        fun _ => rfl } }

/-- Alice lists the users while Bob registers. -/
def listsAndRegisters : Bool → Arrival
  | false => withAccess aliceAccess (.listUsers 10 0)
  | true =>
    { http := {}, route := .login (.register { email := "bob@example.org", password := "Str0ng!pass" }) }

def managerPool : RequestPool Bool ℚ :=
  ⟨fun i => ⟨serve demo (listsAndRegisters i), (listsAndRegisters i, {}), []⟩, aliceManages⟩

/-- The list is read while the new row of Bob is not committed. -/
def managerTurns : RequestPool Bool ℚ :=
  managerPool.afterTurns (Handler.labelled concurrently) (fun _ _ => true)
    (List.replicate 20 true ++ List.replicate 14 false ++ List.replicate 7 true)

theorem reachable_managerTurns :
    (privilegedRequests demo aliceManages.committed listsAndRegisters).Reachable managerTurns := by
  unfold privilegedRequests requests managerTurns managerPool
  apply Pool.reachable_schedule
  · rfl
  · decide +kernel

theorem bob_gains_nothing :
    aliceManages.committed.KeepsPrivileges managerTurns.shared.committed ∧
      (managerTurns.shared.committed.users.rows.length = 2 ∧
      ∀ id user code, managerTurns.shared.committed.users.find id = some user →
        managerTurns.shared.committed.hasPermission user code = true →
          aliceManages.committed.Entitles id code) := by
  obtain ⟨keeps, entitled⟩ := no_escalation reachable_managerTurns
  exact ⟨keeps, by decide +kernel, entitled⟩

theorem alice_lists_users :
    (listsAndRegisters false).Entitled aliceManages.committed "manage_users" := by
  obtain ⟨reply, returned⟩ := (managerTurns.threads false).returned_of_returns (by decide +kernel)
  exact users_listed_to_managers reachable_managerTurns rfl returned

end EnterpriseAuth
