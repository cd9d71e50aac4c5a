import EnterpriseAuth.Services.RateLimit

/-!
# Registration and passwords

`core/passwords.py`, `repositories/user.py` and `services/auth.py`.
-/

namespace EnterpriseAuth

variable {T : Type} (env : Environment T)

/-! ## Password policy -/

def commonPasswords : List String :=
  ["password", "password1", "12345678", "qwerty123", "letmein1", "welcome1", "admin123",
    "iloveyou", "changeme"]

def isLowerAscii (character : Char) : Bool := 'a' ≤ character && character ≤ 'z'
def isUpperAscii (character : Char) : Bool := 'A' ≤ character && character ≤ 'Z'
def isDigitAscii (character : Char) : Bool := '0' ≤ character && character ≤ '9'

/-- The rules of the policy with the text each adds to the message when it is broken. -/
def passwordProblems (password : String) : List String :=
  let characters := password.toList
  (if characters.length < 8 then ["at least 8 characters"] else []) ++
    (if characters.any isLowerAscii then [] else ["a lowercase letter"]) ++
    (if characters.any isUpperAscii then [] else ["an uppercase letter"]) ++
    (if characters.any env.isDecimal then [] else ["a digit"]) ++
    (if characters.any fun character =>
        !(isLowerAscii character || isUpperAscii character || isDigitAscii character)
      then [] else ["a symbol"])

def validatePasswordStrength (password : String) : App T Unit := do
  let problems := passwordProblems env password
  let missing := ", ".intercalate problems
  if problems ≠ [] then
    throw (.validation s!"Password must contain {missing}.")
  if env.lower password ∈ commonPasswords then
    throw (.validation "This password is too common. Choose a stronger one.")

/-! ## Users -/

namespace Database

/-- The rows that `WHERE lower(users.email) = …` selects for an address. -/
def usersByEmail (db : Database T) (email : String) : List (User T) :=
  db.users.rows.filter fun user => env.sqlLower user.email == env.lower email

/-- `scalar_one_or_none` raises when the query selects more than one row. -/
def getByEmail (db : Database T) (email : String) : Except AppError (Option (User T)) :=
  match db.usersByEmail env email with
  | [] => .ok none
  | [user] => .ok (some user)
  | _ => .error ⟨.database, "MultipleResultsFound"⟩

def emailExists (db : Database T) (email : String) : Bool :=
  (db.usersByEmail env email).length > 0

/-- The default role, if it is seeded. -/
def defaultRoles (db : Database T) : List String :=
  if (db.roles.find "user").isSome then ["user"] else []

theorem defaultRoles_cases (db : Database T) : db.defaultRoles = [] ∨ db.defaultRoles = ["user"] := by
  unfold defaultRoles
  split <;> simp

end Database

def getByEmail (email : String) : App T (Option (User T)) := do
  let db ← view
  match db.getByEmail env email with
  | .error error => throw error
  | .ok user => return user

/-- `uuid6.uuid7` for the primary key, the default role, and the insertion. -/
def addUser (email hashedPassword fullName : String) (isVerified : Bool) : App T (User T) := do
  let db ← view
  let roles := db.defaultRoles
  let id ← uuid4
  let createdAt ← now
  let rolesLoaded := !roles.isEmpty
  let user : User T :=
    { id, email, hashedPassword, fullName, isVerified, roles, rolesLoaded, createdAt }
  write (Database.insertUser user)
  return user

namespace AuthService

def register (email password fullName : String) : App T (User T) := do
  validatePasswordStrength env password
  let db ← view
  if db.emailExists env email then throw (.conflict "A user with this email already exists.")
  let salt ← uuid4
  addUser (env.lower email) (env.hashPassword salt password) fullName false

def authenticate (email password ip : String) : App T (User T) := do
  RateLimiter.ensureNotLocked env email (some ip)
  let user ← getByEmail env email
  let salt ← uuid4
  let stored := match user with
    | some user => user.hashedPassword
    | none => env.hashPassword salt "invalid-placeholder"
  match user, env.verifyPassword password stored with
  | some user, true =>
    if !user.isActive then throw (.auth "This account is disabled.")
    RateLimiter.clearFailures env email (some ip)
    if env.needsRehash user.hashedPassword then
      let rehash ← uuid4
      let hashedPassword := env.hashPassword rehash password
      write (Database.updateUser user.id (fun user => { user with hashedPassword }) fun _ => rfl)
      return { user with hashedPassword }
    else return user
  | _, _ =>
    RateLimiter.recordFailure env email (some ip)
    throw (.auth "Invalid email or password.")

end AuthService

end EnterpriseAuth
