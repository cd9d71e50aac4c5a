import EnterpriseAuth.Models
import Mathlib.Data.Finset.Image

/-!
# Seeding of roles and permissions

`db/seed.py` on the tables of `models/role.py`, `models/permission.py` and `models/associations.py`.
The unique constraints and the foreign keys are fields of the tables, so every statement either
keeps them or raises.
-/

namespace EnterpriseAuth

open Effects

structure Permission where
  id : Uuid
  code : String
  description : String

/-- A row of `roles`; its permissions are rows of `role_permissions`. -/
structure RoleRow where
  id : Uuid
  name : String
  description : String

section
variable {Row : Type} {key : Row → String} {id : Row → ℕ} {table extended : Table key} {row : Row}

theorem mem_of_insert (inserted : table.insert row = some extended) {other : Row} :
    other ∈ extended.rows ↔ other ∈ table.rows ∨ other = row := by
  simp [(Table.insert_eq_some inserted).2]

/-- A row with a new id leaves the ids different. -/
theorem ids_of_insert (inserted : table.insert row = some extended)
    (ids : (table.rows.map id).Nodup) (drawn : ∀ other ∈ table.rows, id other < id row) :
    (extended.rows.map id).Nodup := by
  rw [(Table.insert_eq_some inserted).2, List.map_append, List.nodup_append]
  refine ⟨ids, by simp, ?_⟩
  simp only [List.mem_map, List.map_cons, List.map_nil, List.mem_singleton]
  rintro _ ⟨other, member, rfl⟩ _ rfl same
  have earlier := drawn other member
  omega

theorem drawn_of_insert (inserted : table.insert row = some extended)
    (drawn : ∀ other ∈ table.rows, id other < id row) :
    ∀ other ∈ extended.rows, id other < id row + 1 := by
  intro other member
  cases (mem_of_insert inserted).mp member with
  | inl old =>
    have earlier := drawn other old
    omega
  | inr new =>
    subst new
    omega

end

/-! ## Tables -/

@[ext] structure Rbac where
  permissions : Table Permission.code
  roles : Table RoleRow.name
  rolePermissions : Finset (Uuid × Uuid)
  userRoles : Finset (Uuid × Uuid)
  /-- the id of the next row -/
  draws : Uuid
  permissionIds : (permissions.rows.map Permission.id).Nodup
  roleIds : (roles.rows.map RoleRow.id).Nodup
  permissionsDrawn : ∀ permission ∈ permissions.rows, permission.id < draws
  rolesDrawn : ∀ role ∈ roles.rows, role.id < draws
  wired : ∀ pair ∈ rolePermissions, (∃ role ∈ roles.rows, role.id = pair.1) ∧
    ∃ permission ∈ permissions.rows, permission.id = pair.2
  assigned : ∀ pair ∈ userRoles, ∃ role ∈ roles.rows, role.id = pair.2

namespace Rbac

/-- `Role.permission_codes` -/
def permissionCodes (rbac : Rbac) (role : RoleRow) : List String :=
  (rbac.permissions.rows.filter fun permission =>
    (role.id, permission.id) ∈ rbac.rolePermissions).map (·.code)

def addPermission (rbac : Rbac) (code description : String) :
    Except AppError (Permission × Rbac) :=
  let permission : Permission := { id := rbac.draws, code, description }
  match inserted : rbac.permissions.insert permission with
  | none => .error .integrity
  | some permissions => .ok (permission, { rbac with
      permissions
      draws := rbac.draws + 1
      permissionIds := ids_of_insert inserted rbac.permissionIds rbac.permissionsDrawn
      permissionsDrawn := drawn_of_insert inserted rbac.permissionsDrawn
      rolesDrawn := fun role member => (rbac.rolesDrawn role member).trans (Nat.lt_succ_self _)
      wired := fun pair member =>
        ⟨(rbac.wired pair member).1,
          (rbac.wired pair member).2.imp fun _ stored =>
            ⟨(mem_of_insert inserted).mpr (.inl stored.1), stored.2⟩⟩ })

def addRole (rbac : Rbac) (name description : String) : Except AppError (RoleRow × Rbac) :=
  let role : RoleRow := { id := rbac.draws, name, description }
  match inserted : rbac.roles.insert role with
  | none => .error .integrity
  | some roles => .ok (role, { rbac with
      roles
      draws := rbac.draws + 1
      roleIds := ids_of_insert inserted rbac.roleIds rbac.rolesDrawn
      rolesDrawn := drawn_of_insert inserted rbac.rolesDrawn
      permissionsDrawn := fun permission member =>
        (rbac.permissionsDrawn permission member).trans (Nat.lt_succ_self _)
      wired := fun pair member =>
        ⟨(rbac.wired pair member).1.imp fun _ stored =>
          ⟨(mem_of_insert inserted).mpr (.inl stored.1), stored.2⟩, (rbac.wired pair member).2⟩
      assigned := fun pair member => (rbac.assigned pair member).imp fun _ stored =>
        ⟨(mem_of_insert inserted).mpr (.inl stored.1), stored.2⟩ })

/-- The pairs of `role_permissions` once the role has exactly the permissions. -/
def rewired (rbac : Rbac) (roleId : Uuid) (permissionIds : List Uuid) : Finset (Uuid × Uuid) :=
  rbac.rolePermissions.filter (fun pair => pair.1 ≠ roleId) ∪
    permissionIds.toFinset.image fun permissionId => (roleId, permissionId)

theorem mem_rewired {rbac : Rbac} {roleId : Uuid} {permissionIds : List Uuid} {pair : Uuid × Uuid} :
    pair ∈ rbac.rewired roleId permissionIds ↔
      if pair.1 = roleId then pair.2 ∈ permissionIds else pair ∈ rbac.rolePermissions := by
  obtain ⟨role, permission⟩ := pair
  by_cases same : role = roleId
  · simp [rewired, same]
  · have other : ¬ roleId = role := fun equal => same equal.symm
    simp [rewired, same, other]

/-- Assigning to `role.permissions`. -/
def setPermissions (rbac : Rbac) (roleId : Uuid) (permissionIds : List Uuid) :
    Except AppError Rbac :=
  if stored : (∃ role ∈ rbac.roles.rows, role.id = roleId) ∧
      ∀ permissionId ∈ permissionIds, ∃ permission ∈ rbac.permissions.rows,
        permission.id = permissionId then
    .ok { rbac with
      rolePermissions := rbac.rewired roleId permissionIds
      wired := by
        intro pair member
        rw [mem_rewired] at member
        split at member
        next same => exact ⟨same ▸ stored.1, stored.2 pair.2 member⟩
        next => exact rbac.wired pair member }
  else .error .integrity

end Rbac

/-! ## Seeding -/

namespace Seed

/-- `PERMISSIONS` -/
def permissions : List (String × String) :=
  [("manage_users", "Create, update, and delete users"),
    ("manage_roles", "Create, update, and delete roles"),
    ("manage_permissions", "Assign permissions to roles"),
    ("view_dashboard", "View the admin dashboard"),
    ("manage_api_keys", "Create, rotate, and revoke API keys")]

/-- `ROLES` -/
def roles : List (String × List String) :=
  [("super_admin", permissions.map (·.1)),
    ("admin", ["manage_users", "manage_roles", "view_dashboard", "manage_api_keys"]),
    ("staff", ["view_dashboard"]),
    ("user", [])]

def findOrCreatePermission (rbac : Rbac) (code description : String) :
    Except AppError (Permission × Rbac) :=
  match rbac.permissions.find code with
  | some existing => .ok (existing, rbac)
  | none => rbac.addPermission code description

def findOrCreateRole (rbac : Rbac) (name : String) : Except AppError (RoleRow × Rbac) :=
  match rbac.roles.find name with
  | some role => .ok (role, rbac)
  | none => rbac.addRole name s!"{name} role"

/-- The first loop; the second argument is the dictionary `perms`, the latest entry first. -/
def seedPermissions :
    List (String × String) → List (String × Permission) → Rbac →
      Except AppError (List (String × Permission) × Rbac)
  | [], perms, rbac => return (perms, rbac)
  | (code, description) :: rest, perms, rbac => do
    let (existing, rbac) ← findOrCreatePermission rbac code description
    seedPermissions rest ((code, existing) :: perms) rbac

/-- `[perms[c] for c in codes]`, by their ids -/
def resolve (perms : List (String × Permission)) : List String → Except AppError (List Uuid)
  | [] => return []
  | code :: codes => do
    match perms.lookup code with
    | none => throw (.unexpected "KeyError")
    | some permission => return permission.id :: (← resolve perms codes)

def seedRole (perms : List (String × Permission)) (name : String) (codes : List String)
    (rbac : Rbac) : Except AppError Rbac := do
  let (role, rbac) ← findOrCreateRole rbac name
  let permissionIds ← resolve perms codes
  rbac.setPermissions role.id permissionIds

/-- The second loop. -/
def seedRoles (perms : List (String × Permission)) :
    List (String × List String) → Rbac → Except AppError Rbac
  | [], rbac => return rbac
  | (name, codes) :: rest, rbac => do
    let rbac ← seedRole perms name codes rbac
    seedRoles perms rest rbac

def seedRbac (rbac : Rbac) : Except AppError Rbac := do
  let (perms, rbac) ← seedPermissions permissions [] rbac
  seedRoles perms roles rbac

end Seed

end EnterpriseAuth
