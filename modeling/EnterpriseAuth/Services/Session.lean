import EnterpriseAuth.Core.Text
import EnterpriseAuth.Services.Token
import Mathlib.Data.List.MinMax

/-!
# Sessions

`services/session.py`, `core/useragent.py` and `services/geoip.py`: creation, validation, activity
tracking and revocation of session rows.
-/

namespace EnterpriseAuth

structure DeviceInfo where
  deviceName : String
  deviceType : String
  browser : String
  browserVersion : String
  operatingSystem : String
  operatingSystemVersion : String
  userAgent : String

structure GeoLocation where
  country : Option String
  city : Option String

variable {T : Type} (env : Environment T)

/-- `a or b` on strings -/
def orElse (first second : String) : String := if first = "" then second else first

/-- `_clean` -/
def clean : Option String → String
  | none => ""
  | some value => if env.lower value ∈ ["other", "none"] then "" else value

def parseUserAgent (raw : String) : DeviceInfo :=
  let ua := env.parseUserAgent raw
  let deviceType :=
    if ua.isBot then "Bot" else if ua.isTablet then "Tablet" else if ua.isMobile then "Mobile"
    else if ua.isPc then "Desktop" else "Unknown"
  let osFamily := clean env ua.osFamily
  let deviceModel := clean env ua.deviceFamily
  { deviceName :=
      orElse deviceModel (orElse (Text.strip s!"{osFamily} {deviceType}") "Unknown")
    deviceType
    browser := orElse (clean env ua.browserFamily) "Unknown"
    browserVersion := ua.browserVersion
    operatingSystem := orElse osFamily "Unknown"
    operatingSystemVersion := ua.osVersion
    userAgent := String.ofList (raw.toList.take 512) }

abbrev Headers := List (String × String)

def Headers.get (headers : Headers) (name : String) : Option String :=
  (headers.find? fun header => header.1 = name).map Prod.snd

/-- `value or None` -/
def nonEmpty (value : Option String) : Option String := value.filter (· ≠ "")

/-- `dict(headers)` looks every name up, so a name that is repeated keeps its first value. -/
def Headers.dict (headers : Headers) : Headers :=
  headers.map fun header => (header.1, (headers.get header.1).getD header.2)

def resolveLocation (headers : Headers) : GeoLocation :=
  let country := (nonEmpty (headers.get "cf-ipcountry")).or (headers.get "x-country")
  let city := (nonEmpty (headers.get "cf-ipcity")).or (headers.get "x-city")
  let country := country.filter fun value => env.upper value ∉ ["XX", "T1"]
  { country := nonEmpty country, city := nonEmpty city }

namespace SessionService

/-- The length of a session's life in seconds. -/
def lifetimeSeconds (rememberMe : Bool) : ℕ :=
  min (TokenService.refreshTtlDays env rememberMe * 86400)
    (env.settings.sessionAbsoluteExpireHours * 3600)

def idleTimeoutSeconds : ℕ := env.settings.sessionIdleTimeoutMinutes * 60

def setActive (sid : Uuid) : App T Unit :=
  setKey (.sessionActive sid) .flag (idleTimeoutSeconds env)

/-- `_clear_cache(…, revoke=True)` -/
def clearCache (sid : Uuid) : App T Unit := do
  deleteKey (.sessionActive sid)
  deleteKey (.sessionTouch sid)
  setKey (.sessionRevoked sid) .flag (env.settings.sessionAbsoluteExpireHours * 3600)

section
variable [CommRing T]

def expiry (rememberMe : Bool) : App T T := do
  let now ← now
  return now + (lifetimeSeconds env rememberMe : T)

def createSession (user : User T) (sessionUuid refreshJti : Uuid) (rememberMe : Bool)
    (ip userAgent : String) (headers : Headers) : App T (Session T × Bool) := do
  let device := parseUserAgent env userAgent
  let geo := resolveLocation env headers
  let now ← now
  let db ← view
  let isNewDevice := db.hasAnyForUser user.id &&
    !db.hasMatchingDevice user.id device.browser device.operatingSystem device.deviceType
  let expiresAt ← expiry env rememberMe
  let record : Session T :=
    { userId := user.id
      sessionUuid
      refreshTokenId := refreshJti
      deviceName := device.deviceName
      deviceType := device.deviceType
      browser := device.browser
      browserVersion := device.browserVersion
      operatingSystem := device.operatingSystem
      operatingSystemVersion := device.operatingSystemVersion
      userAgent := device.userAgent
      ipAddress := ip
      country := geo.country
      city := geo.city
      loginAt := now
      lastActivityAt := now
      expiresAt
      isActive := true
      requestCount := 0 }
  write (Database.insertSession record)
  setActive env sessionUuid
  return (record, isNewDevice)

end

/-! ## Writes on a session row -/

def touched (now : T) (session : Session T) : Session T :=
  { session with lastActivityAt := now, requestCount := session.requestCount + 1 }

def ended (now : T) (reason : String) (session : Session T) : Session T :=
  { session with isActive := false, logoutAt := some now, logoutReason := some reason }

def rebound (now : T) (refreshJti : Uuid) (session : Session T) : Session T :=
  { session with refreshTokenId := refreshJti, lastActivityAt := now }

/-! ## Validation -/

/-- Throttled activity update; the row as the request sees it afterwards. -/
def touch (record : Session T) (now : T) : App T (Session T) := do
  if ← present (.sessionTouch record.sessionUuid) then return record
  else
    write (Database.updateSession record.sessionUuid (touched now) fun _ => rfl)
    setKey (.sessionTouch record.sessionUuid) .flag env.settings.sessionActivityThrottleSeconds
    setActive env record.sessionUuid
    return touched now record

/-- The expiry is committed at once, because the caller rejects the request right after. -/
def expire (record : Session T) (reason : String) : App T Unit := do
  let now ← now
  write (Database.updateSession record.sessionUuid (ended now reason) fun _ => rfl)
  commit
  clearCache env record.sessionUuid

section
variable [CommRing T] [LinearOrder T]

def validateAndTouch (sessionUuid userId : Uuid) : App T (Session T) := do
  if ← present (.sessionRevoked sessionUuid) then throw (.auth "Session has been revoked.")
  let db ← view
  match db.sessions.find sessionUuid with
  | none => throw (.auth "Session is no longer valid.")
  | some record =>
    if record.userId ≠ userId ∨ !record.isActive then throw (.auth "Session is no longer valid.")
    let now ← now
    if now ≥ record.expiresAt then
      expire env record "absolute_expiry"
      throw (.auth "Session has expired.")
    if now > record.lastActivityAt + (idleTimeoutSeconds env : T) then
      expire env record "idle_timeout"
      throw (.auth "Session expired due to inactivity.")
    touch env record now

end

/-! ## Revocation -/

def revoke (record : Session T) (reason : String) : App T Unit := do
  let now ← now
  TokenService.revokeJti env record.refreshTokenId
  write (Database.updateSession record.sessionUuid (ended now reason) fun _ => rfl)
  clearCache env record.sessionUuid

def getOwned (user : User T) (sessionUuid : Uuid) : App T (Session T) := do
  let db ← view
  match db.sessions.find sessionUuid with
  | none => throw (.notFound "Session not found.")
  | some record =>
    if record.userId ≠ user.id then throw (.notFound "Session not found.") else return record

def revokeByUuid (user : User T) (sessionUuid : Uuid) (reason : String) : App T (Session T) := do
  let record ← getOwned user sessionUuid
  if record.isActive then revoke env record reason
  return record

def revokeBySid (sid : Uuid) (reason : String) : App T (Option (Session T)) := do
  let db ← view
  match db.sessions.find sid with
  | none => return none
  | some record =>
    if record.isActive then
      revoke env record reason
      return some record
    else return none

def revokeEach (reason : String) : List (Session T) → App T Unit
  | [] => return ()
  | record :: records => do
    revoke env record reason
    revokeEach reason records

def revokeAll [LinearOrder T] (user : User T) (reason : String) : App T ℕ := do
  let db ← view
  let records := db.listActiveForUser user.id
  revokeEach env reason records
  return records.length

/-- `previous_login`: the latest session that logged in before the current one. -/
def previousLogin [LinearOrder T] (user : User T) (current : Session T) :
    App T (Option (Session T)) := do
  let db ← view
  let candidates := (db.listForUser user.id false).filter fun session =>
    session.sessionUuid ≠ current.sessionUuid && session.loginAt < current.loginAt
  return candidates.argmax (·.loginAt)

/-- After a rotation, points the session at the new refresh JTI. -/
def rebindRefresh (userId sessionUuid newRefreshJti : Uuid) : App T Unit := do
  let db ← view
  match db.sessions.find sessionUuid with
  | none => throw (.auth "Session is no longer valid.")
  | some record =>
    if !record.isActive ∨ record.userId ≠ userId then throw (.auth "Session is no longer valid.")
    let now ← now
    write (Database.updateSession record.sessionUuid (rebound now newRefreshJti) fun _ => rfl)
    setActive env sessionUuid

end SessionService

end EnterpriseAuth
