import EnterpriseAuth.Db.Seed

/-!
# Seeding converges

`seed_rbac` finds or creates each permission, and then finds or creates each role and replaces its
permissions.  From any tables it leads to the seeded ones and leaves everything else as it is; from
seeded tables it changes nothing.
-/

namespace EnterpriseAuth

open Effects

namespace Rbac

/-! ## What the two loops may change -/

/-- Permissions are added, with one of the codes. -/
structure Grows (codes : List String) (before after : Rbac) : Prop where
  kept : ∀ permission ∈ before.permissions.rows, permission ∈ after.permissions.rows
  added : ∀ permission ∈ after.permissions.rows,
    permission ∈ before.permissions.rows ∨ permission.code ∈ codes
  roles : after.roles = before.roles
  wiring : after.rolePermissions = before.rolePermissions
  users : after.userRoles = before.userRoles

/-- Roles with one of the names are added or wired anew. -/
structure Rewires (names : List String) (before after : Rbac) : Prop where
  kept : ∀ role ∈ before.roles.rows, role ∈ after.roles.rows
  added : ∀ role ∈ after.roles.rows, role ∈ before.roles.rows ∨ role.name ∈ names
  wiring : ∀ role ∈ before.roles.rows, role.name ∉ names → ∀ permissionId,
    (role.id, permissionId) ∈ after.rolePermissions ↔
      (role.id, permissionId) ∈ before.rolePermissions
  permissions : after.permissions = before.permissions
  users : after.userRoles = before.userRoles

variable {before middle after : Rbac} {codes moreCodes names moreNames : List String}

theorem Grows.refl (rbac : Rbac) : Grows [] rbac rbac :=
  ⟨fun _ => id, fun _ => .inl, rfl, rfl, rfl⟩

theorem Grows.trans (first : Grows codes before middle) (second : Grows moreCodes middle after) :
    Grows (codes ++ moreCodes) before after where
  kept permission member := second.kept permission (first.kept permission member)
  added permission member := by
    rw [List.mem_append]
    cases second.added permission member with
    | inl old => exact (first.added permission old).imp_right .inl
    | inr new => exact .inr (.inr new)
  roles := second.roles.trans first.roles
  wiring := second.wiring.trans first.wiring
  users := second.users.trans first.users

theorem Rewires.refl (rbac : Rbac) : Rewires [] rbac rbac :=
  ⟨fun _ => id, fun _ => .inl, fun _ _ _ _ => .rfl, rfl, rfl⟩

theorem Rewires.trans (first : Rewires names before middle)
    (second : Rewires moreNames middle after) : Rewires (names ++ moreNames) before after where
  kept role member := second.kept role (first.kept role member)
  added role member := by
    rw [List.mem_append]
    cases second.added role member with
    | inl old => exact (first.added role old).imp_right .inl
    | inr new => exact .inr (.inr new)
  wiring role member unnamed permissionId := by
    rw [List.mem_append, not_or] at unnamed
    rw [second.wiring role (first.kept role member) unnamed.2, first.wiring role member unnamed.1]
  permissions := second.permissions.trans first.permissions
  users := second.users.trans first.users

/-! ## Seeded tables -/

/-- The role is there, and its permissions are those with one of the codes. -/
def Wired (rbac : Rbac) (name : String) (codes : List String) : Prop :=
  ∃ role ∈ rbac.roles.rows, role.name = name ∧ ∀ permissionId,
    (role.id, permissionId) ∈ rbac.rolePermissions ↔
      ∃ permission ∈ rbac.permissions.rows, permission.code ∈ codes ∧ permission.id = permissionId

/-- Where all codes are stored, the role has exactly these. -/
theorem Wired.permissionCodes {rbac : Rbac} {name : String} (wired : rbac.Wired name codes)
    (stored : ∀ code ∈ codes, ∃ permission ∈ rbac.permissions.rows, permission.code = code) :
    ∃ role, rbac.roles.find name = some role ∧
      ∀ code, code ∈ rbac.permissionCodes role ↔ code ∈ codes := by
  obtain ⟨role, member, rfl, exactly⟩ := wired
  refine ⟨role, Table.find_of_mem member, fun code => ?_⟩
  simp only [Rbac.permissionCodes, List.mem_map, List.mem_filter, decide_eq_true_eq, exactly]
  constructor
  · rintro ⟨permission, ⟨held, other, otherHeld, coded, same⟩, rfl⟩
    rwa [← List.inj_on_of_nodup_map rbac.permissionIds otherHeld held same]
  · intro wanted
    obtain ⟨permission, held, rfl⟩ := stored code wanted
    exact ⟨permission, ⟨held, permission, held, wanted, rfl⟩, rfl⟩

theorem Wired.of_rewires {name : String} (wired : before.Wired name codes)
    (rewires : Rewires names before after) (unnamed : name ∉ names) : after.Wired name codes := by
  obtain ⟨role, member, rfl, exactly⟩ := wired
  refine ⟨role, rewires.kept role member, rfl, fun permissionId => ?_⟩
  rw [rewires.wiring role member unnamed, exactly, rewires.permissions]

end Rbac

namespace Seed

variable {rbac : Rbac} {perms : List (String × Permission)} {codes : List String}

/-- The dictionary holds the stored permission for each of the codes. -/
def Resolves (perms : List (String × Permission)) (rbac : Rbac) (codes : List String) : Prop :=
  ∀ code ∈ codes, ∃ permission ∈ rbac.permissions.rows,
    perms.lookup code = some permission ∧ permission.code = code

/-! ## Permissions -/

theorem findOrCreatePermission_ok (rbac : Rbac) (code description : String) :
    ∃ permission next, findOrCreatePermission rbac code description = .ok (permission, next) ∧
      permission ∈ next.permissions.rows ∧ permission.code = code ∧ rbac.Grows [code] next := by
  unfold findOrCreatePermission
  cases found : rbac.permissions.find code with
  | some existing =>
    refine ⟨existing, rbac, rfl, Table.find_mem found, Table.find_key found, ?_⟩
    exact ⟨fun _ => id, fun _ => .inl, rfl, rfl, rfl⟩
  | none =>
    simp only [Rbac.addPermission]
    split
    next refused =>
      obtain ⟨extended, inserted⟩ := Table.insert_isSome
        (show rbac.permissions.find (Permission.code ⟨rbac.draws, code, description⟩) = none from found)
      rw [inserted] at refused
      cases refused
    next permissions inserted =>
      refine ⟨_, _, rfl, (mem_of_insert inserted).mpr (.inr rfl), rfl, ?_, ?_, rfl, rfl, rfl⟩
      · exact fun permission member => (mem_of_insert inserted).mpr (.inl member)
      · intro permission member
        apply ((mem_of_insert inserted).mp member).imp_right
        rintro rfl
        simp

/-- The first loop leads to the stored permissions of all codes. -/
theorem seedPermissions_ok (texts : List (String × String)) (resolves : Resolves perms rbac codes) :
    ∃ perms' next, seedPermissions texts perms rbac = .ok (perms', next) ∧
      rbac.Grows (texts.map (·.1)) next ∧ Resolves perms' next (codes ++ texts.map (·.1)) := by
  induction texts generalizing perms rbac codes with
  | nil => exact ⟨perms, rbac, rfl, .refl rbac, by simpa using resolves⟩
  | cons text rest inductionHypothesis =>
    obtain ⟨code, description⟩ := text
    obtain ⟨permission, middle, found, stored, coded, grows⟩ :=
      findOrCreatePermission_ok rbac code description
    have extended : Resolves ((code, permission) :: perms) middle (codes ++ [code]) := by
      intro wanted member
      by_cases same : wanted = code
      · subst same
        exact ⟨permission, stored, by simp, coded⟩
      · have old : wanted ∈ codes := by simpa [same] using member
        obtain ⟨other, otherStored, looked, otherCoded⟩ := resolves wanted old
        have different : (wanted == code) = false := by simpa using same
        refine ⟨other, grows.kept other otherStored, ?_, otherCoded⟩
        simp only [List.lookup_cons, different, looked]
    obtain ⟨perms', next, seeded, growsOn, resolvesOn⟩ := inductionHypothesis extended
    refine ⟨perms', next, ?_, grows.trans growsOn, by simpa using resolvesOn⟩
    rw [seedPermissions, found]
    exact seeded

/-- Where all permissions are stored, the first loop only reads. -/
theorem seedPermissions_settled {texts : List (String × String)}
    (stored : ∀ text ∈ texts, ∃ permission ∈ rbac.permissions.rows, permission.code = text.1) :
    ∃ perms', seedPermissions texts perms rbac = .ok (perms', rbac) := by
  induction texts generalizing perms with
  | nil => exact ⟨perms, rfl⟩
  | cons text rest inductionHypothesis =>
    obtain ⟨permission, member, coded⟩ := stored text List.mem_cons_self
    have found : findOrCreatePermission rbac text.1 text.2 = .ok (permission, rbac) := by
      rw [findOrCreatePermission, ← coded, Table.find_of_mem member]
    obtain ⟨perms', seeded⟩ := inductionHypothesis fun other later =>
      stored other (List.mem_cons_of_mem text later)
    refine ⟨perms', ?_⟩
    rw [seedPermissions, found]
    exact seeded

/-! ## Roles -/

/-- The ids are those of the permissions with one of the codes. -/
theorem resolve_ok (resolves : Resolves perms rbac codes) :
    ∃ permissionIds, resolve perms codes = .ok permissionIds ∧ ∀ permissionId,
      permissionId ∈ permissionIds ↔
        ∃ permission ∈ rbac.permissions.rows, permission.code ∈ codes ∧ permission.id = permissionId := by
  induction codes with
  | nil => exact ⟨[], rfl, by simp⟩
  | cons code rest inductionHypothesis =>
    obtain ⟨permission, stored, looked, coded⟩ := resolves code List.mem_cons_self
    obtain ⟨permissionIds, resolved, exactly⟩ := inductionHypothesis fun other later =>
      resolves other (List.mem_cons_of_mem code later)
    refine ⟨permission.id :: permissionIds, ?_, fun permissionId => ?_⟩
    · rw [resolve, looked, resolved]
      rfl
    · rw [List.mem_cons, exactly]
      constructor
      · rintro (rfl | ⟨other, otherStored, otherCoded, same⟩)
        · exact ⟨permission, stored, by simp [coded], rfl⟩
        · exact ⟨other, otherStored, List.mem_cons_of_mem code otherCoded, same⟩
      · rintro ⟨other, otherStored, otherCoded, rfl⟩
        cases List.mem_cons.mp otherCoded with
        | inl here =>
          -- a code stands in one row only
          have first := Table.find_of_mem stored
          have second := Table.find_of_mem otherStored
          rw [coded, ← here, second] at first
          cases first
          exact .inl rfl
        | inr later => exact .inr ⟨other, otherStored, later, rfl⟩

theorem findOrCreateRole_ok (rbac : Rbac) (name : String) :
    ∃ role next, findOrCreateRole rbac name = .ok (role, next) ∧ role ∈ next.roles.rows ∧
      role.name = name ∧ rbac.Rewires [name] next ∧ next.rolePermissions = rbac.rolePermissions := by
  unfold findOrCreateRole
  cases found : rbac.roles.find name with
  | some existing =>
    refine ⟨existing, rbac, rfl, Table.find_mem found, Table.find_key found, ?_, rfl⟩
    exact ⟨fun _ => id, fun _ => .inl, fun _ _ _ _ => .rfl, rfl, rfl⟩
  | none =>
    simp only [Rbac.addRole]
    split
    next refused =>
      obtain ⟨extended, inserted⟩ := Table.insert_isSome
        (show rbac.roles.find (RoleRow.name ⟨rbac.draws, name, s!"{name} role"⟩) = none from found)
      rw [inserted] at refused
      cases refused
    next roles inserted =>
      refine ⟨_, _, rfl, (mem_of_insert inserted).mpr (.inr rfl), rfl,
        ⟨?_, ?_, fun _ _ _ _ => .rfl, rfl, rfl⟩, rfl⟩
      · exact fun role member => (mem_of_insert inserted).mpr (.inl member)
      · intro role member
        apply ((mem_of_insert inserted).mp member).imp_right
        rintro rfl
        simp

/-- An assignment that the foreign keys allow. -/
theorem setPermissions_ok {role : RoleRow} {permissionIds : List Uuid}
    (member : role ∈ rbac.roles.rows) (exactly : ∀ permissionId, permissionId ∈ permissionIds ↔
      ∃ permission ∈ rbac.permissions.rows, permission.code ∈ codes ∧ permission.id = permissionId) :
    ∃ next, rbac.setPermissions role.id permissionIds = .ok next ∧ next.roles = rbac.roles ∧
      next.permissions = rbac.permissions ∧ next.userRoles = rbac.userRoles ∧
        next.draws = rbac.draws ∧ next.rolePermissions = rbac.rewired role.id permissionIds := by
  have stored : (∃ other ∈ rbac.roles.rows, other.id = role.id) ∧
      ∀ permissionId ∈ permissionIds, ∃ permission ∈ rbac.permissions.rows,
        permission.id = permissionId := by
    refine ⟨⟨role, member, rfl⟩, fun permissionId listed => ?_⟩
    obtain ⟨permission, held, -, same⟩ := (exactly permissionId).mp listed
    exact ⟨permission, held, same⟩
  rw [Rbac.setPermissions, dif_pos stored]
  exact ⟨_, rfl, rfl, rfl, rfl, rfl, rfl⟩

theorem eq_of_roleId {role other : RoleRow} (member : role ∈ rbac.roles.rows)
    (otherMember : other ∈ rbac.roles.rows) (same : role.id = other.id) : role = other :=
  List.inj_on_of_nodup_map rbac.roleIds member otherMember same

theorem seedRole_ok (name : String) (resolves : Resolves perms rbac codes) :
    ∃ next, seedRole perms name codes rbac = .ok next ∧ rbac.Rewires [name] next ∧
      next.Wired name codes := by
  obtain ⟨role, middle, found, member, rfl, rewires, unwired⟩ := findOrCreateRole_ok rbac name
  obtain ⟨permissionIds, resolved, exactly⟩ := resolve_ok resolves
  rw [← rewires.permissions] at exactly
  obtain ⟨next, assigned, roles, permissions, users, -, wiring⟩ := setPermissions_ok member exactly
  refine ⟨next, ?_, ⟨?_, ?_, ?_, permissions.trans rewires.permissions, users.trans rewires.users⟩, ?_⟩
  · rw [seedRole, found]
    change (do
      let permissionIds ← resolve perms codes
      middle.setPermissions role.id permissionIds) = _
    rw [resolved]
    exact assigned
  · rw [roles]
    exact rewires.kept
  · rw [roles]
    exact rewires.added
  · intro other otherMember unnamed permissionId
    have different : other.id ≠ role.id := fun same =>
      unnamed (by simp [eq_of_roleId (rewires.kept other otherMember) member same])
    rw [wiring, Rbac.mem_rewired, if_neg different, unwired]
  · refine ⟨role, roles ▸ member, rfl, fun permissionId => ?_⟩
    rw [wiring, Rbac.mem_rewired, if_pos rfl, exactly, permissions]

theorem Resolves.of_rewires {next : Rbac} {names : List String} (resolves : Resolves perms rbac codes)
    (rewires : rbac.Rewires names next) : Resolves perms next codes := by
  unfold Resolves
  rw [rewires.permissions]
  exact resolves

/-- The second loop wires each role, and a later round leaves the earlier ones alone. -/
theorem seedRoles_ok {entries : List (String × List String)}
    (resolves : ∀ entry ∈ entries, Resolves perms rbac entry.2)
    (distinct : (entries.map (·.1)).Nodup) :
    ∃ next, seedRoles perms entries rbac = .ok next ∧ rbac.Rewires (entries.map (·.1)) next ∧
      ∀ entry ∈ entries, next.Wired entry.1 entry.2 := by
  induction entries generalizing rbac with
  | nil => exact ⟨rbac, rfl, .refl rbac, by simp⟩
  | cons entry rest inductionHypothesis =>
    rw [List.map_cons, List.nodup_cons] at distinct
    obtain ⟨middle, seeded, rewires, wired⟩ := seedRole_ok entry.1 (resolves entry List.mem_cons_self)
    obtain ⟨next, seededOn, rewiresOn, wiredOn⟩ := inductionHypothesis
      (fun other later => (resolves other (List.mem_cons_of_mem entry later)).of_rewires rewires)
      distinct.2
    refine ⟨next, ?_, rewires.trans rewiresOn, ?_⟩
    · rw [seedRoles, seeded]
      exact seededOn
    · intro other member
      cases List.mem_cons.mp member with
      | inl here => exact here ▸ wired.of_rewires rewiresOn distinct.1
      | inr later => exact wiredOn other later

/-- A role that is wired already is left as it is. -/
theorem seedRole_settled {name : String} (wired : rbac.Wired name codes)
    (resolves : Resolves perms rbac codes) : seedRole perms name codes rbac = .ok rbac := by
  obtain ⟨role, member, rfl, wiring⟩ := wired
  obtain ⟨permissionIds, resolved, exactly⟩ := resolve_ok resolves
  obtain ⟨next, assigned, roles, permissions, users, draws, rewired⟩ := setPermissions_ok member exactly
  have found : findOrCreateRole rbac role.name = .ok (role, rbac) := by
    rw [findOrCreateRole, Table.find_of_mem member]
  have same : next = rbac := by
    apply Rbac.ext permissions roles _ users draws
    ext ⟨roleId, permissionId⟩
    rw [rewired, Rbac.mem_rewired]
    split
    next here => rw [exactly, ← wiring, ← here]
    next => rfl
  rw [seedRole, found]
  change (do
    let permissionIds ← resolve perms codes
    rbac.setPermissions role.id permissionIds) = _
  rw [resolved]
  exact assigned.trans (congrArg _ same)

theorem seedRoles_settled {entries : List (String × List String)}
    (wired : ∀ entry ∈ entries, rbac.Wired entry.1 entry.2)
    (resolves : ∀ entry ∈ entries, Resolves perms rbac entry.2) :
    seedRoles perms entries rbac = .ok rbac := by
  induction entries with
  | nil => rfl
  | cons entry rest inductionHypothesis =>
    rw [seedRoles, seedRole_settled (wired entry List.mem_cons_self) (resolves entry List.mem_cons_self)]
    exact inductionHypothesis (fun other later => wired other (List.mem_cons_of_mem entry later))
      fun other later => resolves other (List.mem_cons_of_mem entry later)

end Seed

/-! ## Convergence -/

/-- The tables hold what `PERMISSIONS` and `ROLES` list. -/
structure Rbac.Seeded (rbac : Rbac) : Prop where
  permissions : ∀ text ∈ Seed.permissions,
    ∃ permission ∈ rbac.permissions.rows, permission.code = text.1
  roles : ∀ entry ∈ Seed.roles, ∃ role, rbac.roles.find entry.1 = some role ∧
    ∀ code, code ∈ rbac.permissionCodes role ↔ code ∈ entry.2

/-- No row is lost, and other permissions, other roles and the roles of the users stay the same. -/
structure Rbac.Spares (before after : Rbac) : Prop where
  keptPermissions : ∀ permission ∈ before.permissions.rows, permission ∈ after.permissions.rows
  keptRoles : ∀ role ∈ before.roles.rows, role ∈ after.roles.rows
  permissions : ∀ permission : Permission, permission.code ∉ Seed.permissions.map (·.1) →
    (permission ∈ after.permissions.rows ↔ permission ∈ before.permissions.rows)
  roles : ∀ role : RoleRow, role.name ∉ Seed.roles.map (·.1) →
    (role ∈ after.roles.rows ↔ role ∈ before.roles.rows)
  wiring : ∀ role ∈ before.roles.rows, role.name ∉ Seed.roles.map (·.1) → ∀ permissionId,
    ((role.id, permissionId) ∈ after.rolePermissions ↔
      (role.id, permissionId) ∈ before.rolePermissions)
  users : after.userRoles = before.userRoles

namespace Seed

variable {rbac : Rbac} {perms : List (String × Permission)} {codes : List String}

/-- Each role lists codes of `PERMISSIONS`. -/
theorem codes_of_roles : ∀ entry ∈ roles, ∀ code ∈ entry.2, code ∈ permissions.map (·.1) := by
  decide

theorem distinct_roles : (roles.map (·.1)).Nodup := by decide

theorem Resolves.mono {more : List String} (resolves : Resolves perms rbac more)
    (within : ∀ code ∈ codes, code ∈ more) : Resolves perms rbac codes :=
  fun code member => resolves code (within code member)

/-- The state in which a run of the two loops ends. -/
theorem seedRbac_ok (rbac : Rbac) : ∃ perms middle final, seedRbac rbac = .ok final ∧
    rbac.Grows (permissions.map (·.1)) middle ∧ middle.Rewires (roles.map (·.1)) final ∧
      Resolves perms final (permissions.map (·.1)) ∧ ∀ entry ∈ roles, final.Wired entry.1 entry.2 := by
  obtain ⟨perms, middle, seeded, grows, resolves⟩ :=
    seedPermissions_ok permissions (show Resolves [] rbac [] from fun _ member => by cases member)
  obtain ⟨final, seededRoles, rewires, wired⟩ := seedRoles_ok
    (fun entry member => resolves.mono (codes_of_roles entry member)) distinct_roles
  refine ⟨perms, middle, final, ?_, grows, rewires, resolves.of_rewires rewires, wired⟩
  rw [seedRbac, seeded]
  exact seededRoles

/-- Seeded tables are left as they are. -/
theorem seedRbac_settled
    (stored : ∀ text ∈ permissions, ∃ permission ∈ rbac.permissions.rows, permission.code = text.1)
    (wired : ∀ entry ∈ roles, rbac.Wired entry.1 entry.2) : seedRbac rbac = .ok rbac := by
  obtain ⟨perms, middle, seeded, -, resolves⟩ :=
    seedPermissions_ok permissions (show Resolves [] rbac [] from fun _ member => by cases member)
  obtain ⟨others, settled⟩ : ∃ others, seedPermissions permissions [] rbac = .ok (others, rbac) :=
    seedPermissions_settled stored
  rw [settled] at seeded
  cases seeded
  rw [seedRbac, settled]
  exact seedRoles_settled wired fun entry member => resolves.mono (codes_of_roles entry member)

theorem spares_of_loops {middle final : Rbac} (grows : rbac.Grows (permissions.map (·.1)) middle)
    (rewires : middle.Rewires (roles.map (·.1)) final) : rbac.Spares final where
  keptPermissions permission member := by
    rw [rewires.permissions]
    exact grows.kept permission member
  keptRoles role member := rewires.kept role (grows.roles ▸ member)
  permissions permission unlisted := by
    rw [rewires.permissions]
    constructor
    · intro member
      exact (grows.added permission member).resolve_right unlisted
    · exact grows.kept permission
  roles role unlisted := by
    constructor
    · intro member
      exact grows.roles ▸ (rewires.added role member).resolve_right unlisted
    · intro member
      exact rewires.kept role (grows.roles ▸ member)
  wiring role member unlisted permissionId := by
    rw [rewires.wiring role (grows.roles ▸ member) unlisted, grows.wiring]
  users := rewires.users.trans grows.users

/-- Seeding leads from any tables to the seeded ones, spares the rest, and leaves seeded tables
alone. -/
theorem seeding_converges (rbac : Rbac) :
    ∃ final, seedRbac rbac = .ok final ∧ final.Seeded ∧ rbac.Spares final ∧
      seedRbac final = .ok final := by
  obtain ⟨perms, middle, final, seeded, grows, rewires, resolves, wired⟩ := seedRbac_ok rbac
  have stored (code : String) (listed : code ∈ permissions.map (·.1)) :
      ∃ permission ∈ final.permissions.rows, permission.code = code := by
    obtain ⟨permission, held, -, coded⟩ := resolves code listed
    exact ⟨permission, held, coded⟩
  have storedTexts : ∀ text ∈ permissions, ∃ permission ∈ final.permissions.rows,
      permission.code = text.1 :=
    fun text member => stored text.1 (List.mem_map_of_mem member)
  refine ⟨final, seeded, ⟨storedTexts, fun entry member => ?_⟩, spares_of_loops grows rewires,
    seedRbac_settled storedTexts wired⟩
  exact (wired entry member).permissionCodes fun code listed =>
    stored code (codes_of_roles entry member code listed)

/-- Tables that have drifted: the staff may manage users, and the operators have a role of their own. -/
def drifted : Rbac where
  permissions := ⟨[⟨1, "manage_users", ""⟩, ⟨2, "audit", "Read the audit log"⟩], by decide⟩
  roles := ⟨[⟨3, "staff", ""⟩, ⟨4, "auditor", ""⟩], by decide⟩
  rolePermissions := {(3, 1), (4, 2)}
  userRoles := {(7, 3), (8, 4)}
  draws := 5
  permissionIds := by decide
  roleIds := by decide
  permissionsDrawn := by decide
  rolesDrawn := by decide
  wired := by decide
  assigned := by decide

theorem drifted_converges : ¬ drifted.Seeded ∧ ∃ final, seedRbac drifted = .ok final ∧
    final.Seeded ∧ drifted.Spares final ∧ seedRbac final = .ok final := by
  refine ⟨fun seeded => ?_, seeding_converges drifted⟩
  obtain ⟨permission, member, coded⟩ := seeded.permissions ("manage_roles", _) (.tail _ (.head _))
  revert permission
  decide

/-- The staff loses the permission, and the auditors keep theirs. -/
example : (seedRbac drifted).toOption.map (fun final => final.roles.rows.map fun role =>
    (role.name, final.permissionCodes role)) = some
      [("staff", ["view_dashboard"]), ("auditor", ["audit"]),
        ("super_admin", ["manage_users", "manage_roles", "manage_permissions", "view_dashboard",
          "manage_api_keys"]),
        ("admin", ["manage_users", "manage_roles", "view_dashboard", "manage_api_keys"]),
        ("user", [])] := by
  decide +kernel

end Seed

/-! ## What the seeded roles permit -/

/-- A role as the permission checks read it. -/
def Rbac.toRole (rbac : Rbac) (role : RoleRow) : Role where
  name := role.name
  description := role.description
  permissions := rbac.permissionCodes role

def Rbac.toRoles (rbac : Rbac) : Table Role.name where
  rows := rbac.roles.rows.map rbac.toRole
  distinct := by
    rw [List.map_map]
    exact rbac.roles.distinct

theorem find_toRoles {rbac : Rbac} {role : RoleRow} (member : role ∈ rbac.roles.rows) :
    rbac.toRoles.find role.name = some (rbac.toRole role) := by
  have listed : rbac.toRole role ∈ rbac.toRoles.rows := List.mem_map_of_mem member
  exact Table.find_of_mem listed

/-- A user with seeded roles has the permissions that `ROLES` lists for them. -/
theorem hasPermission_seeded {T : Type} {db : Database T} {rbac : Rbac} {user : User T} {code : String}
    (seeded : rbac.Seeded) (read : db.roles = rbac.toRoles) (ordinary : user.isSuperuser = false)
    (assigned : ∀ name ∈ user.roles, name ∈ Seed.roles.map (·.1)) :
    db.hasPermission user code = true ↔
      ∃ entry ∈ Seed.roles, entry.1 ∈ user.roles ∧ code ∈ entry.2 := by
  have granted (entry : String × List String) (member : entry ∈ Seed.roles) :
      ∃ role, db.roles.find entry.1 = some role ∧ ∀ code, code ∈ role.permissions ↔ code ∈ entry.2 := by
    obtain ⟨row, found, exactly⟩ := seeded.roles entry member
    refine ⟨rbac.toRole row, ?_, exactly⟩
    rw [read, ← Table.find_key found, find_toRoles (Table.find_mem found)]
  simp only [Database.hasPermission, ordinary, Bool.false_or, List.contains_iff_mem,
    Database.permissionCodes, List.mem_flatMap]
  constructor
  · rintro ⟨name, held, permitted⟩
    obtain ⟨entry, member, rfl⟩ := List.mem_map.mp (assigned name held)
    obtain ⟨role, found, exactly⟩ := granted entry member
    rw [found] at permitted
    exact ⟨entry, member, held, (exactly code).mp permitted⟩
  · rintro ⟨entry, member, held, listed⟩
    obtain ⟨role, found, exactly⟩ := granted entry member
    refine ⟨entry.1, held, ?_⟩
    rw [found]
    exact (exactly code).mpr listed

end EnterpriseAuth
