import EnterpriseAuth.Core.Settings
import EnterpriseAuth.Effects.Table
import Mathlib.Data.List.Sort

/-!
# The database

The rows of `models/`, the database they make up, and the statements the repositories and the
ORM's unit of work send to it.  A unique column is the key of its `Table`; the other constraints
(the second unique column of `users`, the foreign keys and the column widths) are checked by the
statement that writes, and a statement that breaks one raises without changing anything.
-/

namespace EnterpriseAuth

open Effects

/-- The identity of a `uuid.UUID`. -/
abbrev Uuid := ℕ

structure User (T : Type) where
  id : Uuid
  email : String
  hashedPassword : String
  fullName : String := ""
  isActive : Bool := true
  isVerified : Bool := false
  isSuperuser : Bool := false
  roles : List String := []
  /-- The roles can be read: a query loads them, and adding a user without any does not. -/
  rolesLoaded : Bool := true
  createdAt : T

structure Session (T : Type) where
  userId : Uuid
  sessionUuid : Uuid
  refreshTokenId : Uuid
  deviceName : String := ""
  deviceType : String := ""
  browser : String := ""
  browserVersion : String := ""
  operatingSystem : String := ""
  operatingSystemVersion : String := ""
  userAgent : String := ""
  ipAddress : String := ""
  country : Option String := none
  city : Option String := none
  loginAt : T
  lastActivityAt : T
  logoutAt : Option T := none
  expiresAt : T
  logoutReason : Option String := none
  isActive : Bool := true
  requestCount : ℕ := 0

structure TwoFactorAuth (T : Type) where
  userId : Uuid
  encryptedSecret : String
  enabled : Bool := false
  verifiedAt : Option T := none

structure BackupCode (T : Type) where
  id : Uuid
  userId : Uuid
  hashedCode : String
  usedAt : Option T := none

inductive Purpose where
  | verifyEmail | resetPassword | changeEmail
  deriving DecidableEq, Repr

structure EmailToken (T : Type) where
  userId : Uuid
  tokenHash : String
  purpose : Purpose
  newEmail : Option String := none
  expiresAt : T
  usedAt : Option T := none

structure OAuthAccount (T : Type) where
  userId : Uuid
  provider : String
  providerAccountId : String
  email : Option String
  createdAt : T

structure Role where
  name : String
  description : String := ""
  permissions : List String := []

/-! ## Column widths -/

/-- The text is short enough for a `VARCHAR(width)` column. -/
def fitsWidth (width : ℕ) (text : String) : Bool := text.length ≤ width

/-- The text can be stored in a `VARCHAR(width)` column: PostgreSQL refuses U+0000 as well. -/
def fitsColumn (width : ℕ) (text : String) : Bool :=
  fitsWidth width text && text.toList.all fun character => character.toNat ≠ 0

def fitsNullable (width : ℕ) : Option String → Bool
  | none => true
  | some text => fitsColumn width text

def User.fits {T : Type} (user : User T) : Bool :=
  fitsColumn 320 user.email && fitsColumn 255 user.hashedPassword && fitsColumn 255 user.fullName

/-- The texts of a session come from HTTP headers, which hold no U+0000. -/
def Session.fits {T : Type} (session : Session T) : Bool :=
  fitsWidth 128 session.deviceName && fitsWidth 32 session.deviceType &&
    fitsWidth 64 session.browser && fitsWidth 32 session.browserVersion &&
    fitsWidth 64 session.operatingSystem && fitsWidth 32 session.operatingSystemVersion &&
    fitsWidth 512 session.userAgent && fitsWidth 45 session.ipAddress &&
    session.country.all (fitsWidth 64) && session.city.all (fitsWidth 128)

def OAuthAccount.fits {T : Type} (account : OAuthAccount T) : Bool :=
  fitsColumn 32 account.provider && fitsColumn 255 account.providerAccountId &&
    fitsNullable 320 account.email

/-! ## Statements -/

structure Database (T : Type) where
  users : Table (User.id (T := T)) := ∅
  sessions : Table (Session.sessionUuid (T := T)) := ∅
  twoFactorAuth : Table (TwoFactorAuth.userId (T := T)) := ∅
  backupCodes : Table (BackupCode.id (T := T)) := ∅
  emailTokens : Table (EmailToken.tokenHash (T := T)) := ∅
  oauthAccounts : Table
    (fun account : OAuthAccount T => (account.provider, account.providerAccountId)) := ∅
  roles : Table Role.name := ∅

namespace Database

variable {T : Type}

def userExists (db : Database T) (id : Uuid) : Bool := (db.users.find id).isSome

/-- Another row already holds the address (`users.email` is unique). -/
def emailTaken (db : Database T) (user : User T) : Bool :=
  db.users.rows.any fun other => other.id ≠ user.id && other.email == user.email

def insertUser (user : User T) (db : Database T) : Except AppError (Database T) :=
  if !user.fits then .error .dataError
  else if db.emailTaken user then .error .integrity
  else
    match db.users.insert user with
    | none => .error .integrity
    | some users => .ok { db with users }

/-- `UPDATE users SET … WHERE id = …` -/
def updateUser (id : Uuid) (change : User T → User T) (keeps : ∀ user, (change user).id = user.id)
    (db : Database T) : Except AppError (Database T) :=
  match db.users.find id with
  | none => .error .staleData
  | some user =>
    if !(change user).fits then .error .dataError
    else if db.emailTaken (change user) then .error .integrity
    else .ok { db with users := db.users.modify id change keeps }

def insertSession (session : Session T) (db : Database T) : Except AppError (Database T) :=
  if !session.fits then .error .dataError
  else if !db.userExists session.userId then .error .integrity
  else
    match db.sessions.insert session with
    | none => .error .integrity
    | some sessions => .ok { db with sessions }

/-- `UPDATE sessions SET … WHERE session_uuid = …`; no update writes a text column of the device. -/
def updateSession (sid : Uuid) (change : Session T → Session T)
    (keeps : ∀ session, (change session).sessionUuid = session.sessionUuid)
    (db : Database T) : Except AppError (Database T) :=
  match db.sessions.find sid with
  | none => .error .staleData
  | some _ => .ok { db with sessions := db.sessions.modify sid change keeps }

def insertTwoFactorAuth (record : TwoFactorAuth T) (db : Database T) :
    Except AppError (Database T) :=
  if !fitsColumn 512 record.encryptedSecret then .error .dataError
  else if !db.userExists record.userId then .error .integrity
  else
    match db.twoFactorAuth.insert record with
    | none => .error .integrity
    | some twoFactorAuth => .ok { db with twoFactorAuth }

def updateTwoFactorAuth (userId : Uuid) (change : TwoFactorAuth T → TwoFactorAuth T)
    (keeps : ∀ record, (change record).userId = record.userId)
    (db : Database T) : Except AppError (Database T) :=
  match db.twoFactorAuth.find userId with
  | none => .error .staleData
  | some record =>
    if !fitsColumn 512 (change record).encryptedSecret then .error .dataError
    else .ok { db with twoFactorAuth := db.twoFactorAuth.modify userId change keeps }

def deleteTwoFactorAuth (userId : Uuid) (db : Database T) : Except AppError (Database T) :=
  .ok { db with twoFactorAuth := db.twoFactorAuth.removeWhere fun record => record.userId = userId }

def insertBackupCode (code : BackupCode T) (db : Database T) : Except AppError (Database T) :=
  if !fitsColumn 255 code.hashedCode then .error .dataError
  else if !db.userExists code.userId then .error .integrity
  else
    match db.backupCodes.insert code with
    | none => .error .integrity
    | some backupCodes => .ok { db with backupCodes }

def updateBackupCode (id : Uuid) (change : BackupCode T → BackupCode T)
    (keeps : ∀ code, (change code).id = code.id)
    (db : Database T) : Except AppError (Database T) :=
  match db.backupCodes.find id with
  | none => .error .staleData
  | some _ => .ok { db with backupCodes := db.backupCodes.modify id change keeps }

def deleteBackupCodes (userId : Uuid) (db : Database T) : Except AppError (Database T) :=
  .ok { db with backupCodes := db.backupCodes.removeWhere fun code => code.userId = userId }

def insertEmailToken (token : EmailToken T) (db : Database T) : Except AppError (Database T) :=
  if !(fitsColumn 64 token.tokenHash && fitsNullable 320 token.newEmail) then .error .dataError
  else if !db.userExists token.userId then .error .integrity
  else
    match db.emailTokens.insert token with
    | none => .error .integrity
    | some emailTokens => .ok { db with emailTokens }

def updateEmailToken (tokenHash : String) (change : EmailToken T → EmailToken T)
    (keeps : ∀ token, (change token).tokenHash = token.tokenHash)
    (db : Database T) : Except AppError (Database T) :=
  match db.emailTokens.find tokenHash with
  | none => .error .staleData
  | some _ => .ok { db with emailTokens := db.emailTokens.modify tokenHash change keeps }

def deleteEmailTokens (userId : Uuid) (purpose : Purpose) (db : Database T) :
    Except AppError (Database T) :=
  .ok { db with
    emailTokens := db.emailTokens.removeWhere fun token =>
      token.userId = userId && token.purpose = purpose }

def insertOAuthAccount (account : OAuthAccount T) (db : Database T) :
    Except AppError (Database T) :=
  if !account.fits then .error .dataError
  else if !db.userExists account.userId then .error .integrity
  else
    match db.oauthAccounts.insert account with
    | none => .error .integrity
    | some oauthAccounts => .ok { db with oauthAccounts }

/-! ## Queries of the repositories -/

/-- The selected sessions of the user, the most recently active one first. -/
def listForUser [LinearOrder T] (db : Database T) (userId : Uuid) (activeOnly : Bool) :
    List (Session T) :=
  (db.sessions.rows.filter fun session =>
      session.userId = userId && (!activeOnly || session.isActive)).insertionSort
    fun first second => second.lastActivityAt ≤ first.lastActivityAt

def listActiveForUser [LinearOrder T] (db : Database T) (userId : Uuid) : List (Session T) :=
  db.listForUser userId true

def countActiveForUser (db : Database T) (userId : Uuid) : ℕ :=
  db.sessions.rows.countP fun session => session.userId = userId && session.isActive

def hasAnyForUser (db : Database T) (userId : Uuid) : Bool :=
  db.sessions.rows.any fun session => session.userId = userId

def hasMatchingDevice (db : Database T) (userId : Uuid)
    (browser operatingSystem deviceType : String) : Bool :=
  db.sessions.rows.any fun session =>
    session.userId = userId && session.browser == browser &&
      session.operatingSystem == operatingSystem && session.deviceType == deviceType

def listUnused (db : Database T) (userId : Uuid) : List (BackupCode T) :=
  db.backupCodes.rows.filter fun code => code.userId = userId && code.usedAt.isNone

def countUnused (db : Database T) (userId : Uuid) : ℕ := (db.listUnused userId).length

def listAllUsers [LinearOrder T] (db : Database T) : List (User T) :=
  db.users.rows.insertionSort fun first second => first.createdAt ≤ second.createdAt

def listOAuthAccounts (db : Database T) (userId : Uuid) : List (OAuthAccount T) :=
  db.oauthAccounts.rows.filter fun account => account.userId = userId

def permissionCodes (db : Database T) (user : User T) : List String :=
  user.roles.flatMap fun name =>
    match db.roles.find name with
    | none => []
    | some role => role.permissions

def hasPermission (db : Database T) (user : User T) (code : String) : Bool :=
  user.isSuperuser || (db.permissionCodes user).contains code

end Database

end EnterpriseAuth
