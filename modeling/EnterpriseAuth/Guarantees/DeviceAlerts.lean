import EnterpriseAuth.Guarantees.Origin
import EnterpriseAuth.Guarantees.Logout
import EnterpriseAuth.Guarantees.OneTimeCodes

/-!
# Alerts of new devices

`create_session` counts the user's sessions, and those among them from the same device, before it
stores a new one.  No other request removes a session row or changes its device, so the two counts
speak about all earlier calls for the user.
-/

namespace EnterpriseAuth

open Effects Program SessionService

variable {T : Type} (env : Environment T)

/-! ## Devices -/

/-- What tells devices apart. -/
structure Device where
  browser : String
  operatingSystem : String
  deviceType : String
  deriving DecidableEq

def Session.device (session : Session T) : Device :=
  ⟨session.browser, session.operatingSystem, session.deviceType⟩

/-- The device that the header is parsed to. -/
def deviceOf (userAgent : String) : Device :=
  let device := parseUserAgent env userAgent
  ⟨device.browser, device.operatingSystem, device.deviceType⟩

/-- The user and the device of each stored session, the oldest one first. -/
def Database.devices (db : Database T) : List (Uuid × Device) :=
  db.sessions.rows.map fun row => (row.userId, row.device)

/-! ## Calls of `create_session` -/

/-- The arguments of a call. -/
structure SessionCall (T : Type) where
  user : User T
  sessionUuid : Uuid
  refreshJti : Uuid
  rememberMe : Bool
  ip : String
  userAgent : String
  headers : Headers

/-- What a call that succeeded was about, and what it reported. -/
structure DeviceLogin where
  userId : Uuid
  device : Device
  isNewDevice : Bool
  deriving DecidableEq

/-- The service with a record of the calls so far, the latest first. -/
structure Recorded (T : Type) where
  world : World T
  logins : List DeviceLogin

section
variable [CommRing T] [LinearOrder T]

/-- A call, and the server it leaves. -/
def World.createSession (world : World T) (call : SessionCall T) :
    Except AppError (Session T × Bool) × Server T :=
  (SessionService.createSession env call.user call.sessionUuid call.refreshJti call.rememberMe call.ip
    call.userAgent call.headers).run handle world.server

/-- The world once the transaction of a call has been closed. -/
def World.closed (world : World T) (db : Database T) (after : Server T) : World T :=
  { world with db, redis := after.redis, draws := after.draws }

end

inductive AlertEvent (T : Type) where
  | tick (instant : T)
  | setUserActive (userId : Uuid) (active : Bool)
  /-- any request that does not log in, with whatever tokens -/
  | request (arrival : Arrival)
  | createSession (call : SessionCall T)

variable [CommRing T] [LinearOrder T] [FloorRing T]

inductive Recorded.Step : Recorded T → AlertEvent T → Recorded T → Prop
  | tick {state : Recorded T} (instant : T) :
    Step state (.tick instant) { state with world := { state.world with clock := instant } }
  | setUserActive {state : Recorded T} (userId : Uuid) (active : Bool) :
    Step state (.setUserActive userId active) { state with world := { state.world with
      db := { state.world.db with
        users := state.world.db.users.modify userId (fun user => { user with isActive := active })
          fun _ => rfl } } }
  | request {state : Recorded T} {arrival : Arrival} (other : ∀ route, arrival.route ≠ .login route) :
    Step state (.request arrival) { state with world := state.world.afterRequest env arrival }
  | created {state : Recorded T} {call : SessionCall T} {record : Session T} {isNewDevice : Bool}
    {after : Server T} (ran : state.world.createSession env call = (.ok (record, isNewDevice), after)) :
    Step state (.createSession call)
      { world := state.world.closed after.working after
        logins := ⟨call.user.id, deviceOf env call.userAgent, isNewDevice⟩ :: state.logins }
  | refused {state : Recorded T} {call : SessionCall T} {error : AppError} {after : Server T}
    (ran : state.world.createSession env call = (.error error, after)) :
    Step state (.createSession call)
      { state with world := state.world.closed state.world.db after }

/-- Calls of `create_session` among all other requests, from a database without sessions. -/
def recording : System (Recorded T) (AlertEvent T) where
  start state := state.world.db.sessions = ∅ ∧ state.logins = []
  step := Recorded.Step env

/-! ## Rows keep their devices -/

variable {env} {devices : List (Uuid × Device)}

/-- The rows of both views of the database are those of the devices. -/
def Server.Keeps (server : Server T) (devices : List (Uuid × Device)) : Prop :=
  server.working.devices = devices ∧ server.committed.devices = devices

omit [CommRing T] [LinearOrder T] [FloorRing T] in
theorem devices_modify (table : Table (Session.sessionUuid (T := T))) (sid : Uuid)
    (change : Session T → Session T) (keeps)
    (same : ∀ row, ((change row).userId, (change row).device) = (row.userId, row.device)) :
    (table.modify sid change keeps).rows.map (fun row => (row.userId, row.device)) =
      table.rows.map fun row => (row.userId, row.device) := by
  rw [Table.modify, List.map_map]
  apply List.map_congr_left
  intro row _
  simp only [Function.comp]
  split
  · exact same row
  · rfl

omit [CommRing T] [LinearOrder T] [FloorRing T] in
theorem Server.Keeps.changeSession {server : Server T} (keeps : server.Keeps devices) (sid : Uuid)
    (change : Session T → Session T) (key)
    (same : ∀ row, ((change row).userId, (change row).device) = (row.userId, row.device)) :
    (server.changeSession sid change key).Keeps devices :=
  ⟨(devices_modify _ sid change key same).trans keeps.1, keeps.2⟩

omit [FloorRing T] in
/-- Effects that create no session keep the devices. -/
theorem Follows.keeps {permits : Permits T} {before after : Server T}
    (follows : Follows env permits before after) (createsNone : ∀ row, ¬ permits.creates row)
    (keeps : before.Keeps devices) : after.Keeps devices := by
  apply follows.invariant (fun server => server.Keeps devices) keeps
  intro first second keeps effect
  cases effect with
  | aside aside =>
    have sessions : second.working.sessions = first.working.sessions := aside.working
    rw [Server.Keeps, Database.devices, sessions, aside.committed]
    exact keeps
  | commit => exact ⟨keeps.1, keeps.1⟩
  | touch => exact keeps.changeSession _ _ _ fun _ => rfl
  | finish reason => exact keeps.changeSession _ _ _ fun _ => rfl
  | retire => exact keeps
  | blacklist => exact keeps
  | create permitted => exact absurd permitted (createsNone _)

theorem RefreshOutcome.keeps {start final : Server T} {request : HttpRequest}
    {result : Except AppError (Reply T)} (outcome : RefreshOutcome env start request result final)
    (keeps : start.Keeps devices) : final.Keeps devices := by
  have rotated (claims : Claims) : (start.rotated claims).Keeps devices := by
    rw [Server.Keeps, rotated_working, rotated_committed]
    exact keeps
  cases outcome with
  | refused => exact keeps
  | @replayed claims =>
    obtain same | ⟨row, -, -, same⟩ := afterReplay_cases env start claims
    · rw [same]
      exact keeps
    · have finished := keeps.changeSession row.sessionUuid (ended start.clock "refresh_replay")
        (fun _ => rfl) fun _ => rfl
      rw [same]
      exact ⟨finished.1, finished.1⟩
  | unbound => exact rotated _
  | rebound => exact (rotated _).changeSession _ _ _ fun _ => rfl
  | sessionless => exact rotated _

/-- A request that does not log in keeps the devices. -/
theorem devices_afterRequest (world : World T) {arrival : Arrival}
    (other : ∀ route, arrival.route ≠ .login route) :
    (world.afterRequest env arrival).db.devices = world.db.devices := by
  have start : world.server.Keeps world.db.devices := ⟨rfl, rfl⟩
  have fromLimited {limited : Server T} (passes : world.Passes env arrival limited) :
      limited.Keeps world.db.devices := by
    have working : limited.working = world.server.working := passes.aside.working
    rw [Server.Keeps, working, passes.aside.committed]
    exact start
  have createsNone (limited : Server T) (row : Session T) :
      ¬ (arrival.permits env limited).creates row := by
    intro permitted
    obtain ⟨route, routed, -⟩ := Arrival.creates permitted
    exact other route routed
  have served := served env world arrival
  change (world.exchange env arrival).after.committed.devices = _
  generalize (world.exchange env arrival).reply = result at served
  generalize (world.exchange env arrival).after = after at served ⊢
  cases served with
  | refused aside => rw [aside.committed]; rfl
  | failed passes _ follows => exact (follows.keeps (createsNone _) (fromLimited passes)).2
  | answered passes _ follows => exact (follows.keeps (createsNone _) (fromLimited passes)).1
  | refreshFailed passes _ outcome => exact (outcome.keeps (fromLimited passes)).2
  | refreshAnswered passes _ outcome => exact (outcome.keeps (fromLimited passes)).1

/-! ## What a call reports -/

omit [CommRing T] [LinearOrder T] [FloorRing T] in
theorem hasAnyForUser_iff (db : Database T) (userId : Uuid) :
    db.hasAnyForUser userId = true ↔ ∃ entry ∈ db.devices, entry.1 = userId := by
  simp [Database.hasAnyForUser, Database.devices]

omit [CommRing T] [LinearOrder T] [FloorRing T] in
theorem hasMatchingDevice_iff (db : Database T) (userId : Uuid) (device : Device) :
    db.hasMatchingDevice userId device.browser device.operatingSystem device.deviceType = true ↔
      (userId, device) ∈ db.devices := by
  obtain ⟨browser, operatingSystem, deviceType⟩ := device
  simp [Database.hasMatchingDevice, Database.devices, Session.device, and_assoc]

omit [FloorRing T] in
/-- A call goes by the rows that it finds, and adds one. -/
theorem createSession_ok {world : World T} {call : SessionCall T} {record : Session T}
    {isNewDevice : Bool} {after : Server T}
    (ran : world.createSession env call = (.ok (record, isNewDevice), after)) :
    (isNewDevice = true ↔ (∃ entry ∈ world.db.devices, entry.1 = call.user.id) ∧
      (call.user.id, deviceOf env call.userAgent) ∉ world.db.devices) ∧
    after.working.devices = world.db.devices ++ [(call.user.id, deviceOf env call.userAgent)] := by
  simp only [World.createSession, SessionService.createSession, expiry, run_bind, run_now, run_view,
    run_pure, run_write, run_setActive] at ran
  split at ran
  next changed =>
    split at changed
    next working inserted =>
      cases changed
      cases ran
      obtain ⟨-, -, sessions, stored, rfl⟩ := Database.insertSession_ok inserted
      constructor
      · rw [Bool.and_eq_true, Bool.not_eq_true', ← Bool.not_eq_true, hasAnyForUser_iff]
        have matching := hasMatchingDevice_iff world.db call.user.id (deviceOf env call.userAgent)
        exact and_congr_right fun _ => not_congr matching
      · have rows := (Table.insert_eq_some stored).2
        change sessions.rows.map _ = _
        rw [rows, List.map_append]
        rfl
    next => cases changed
  next => cases ran

/-! ## Runs -/

/-- The stored sessions are those of the recorded calls. -/
def Recorded.Faithful (state : Recorded T) : Prop :=
  state.world.db.devices.reverse = state.logins.map fun login => (login.userId, login.device)

/-- The report is right about the earlier calls. -/
def DeviceLogin.Right (login : DeviceLogin) (earlier : List DeviceLogin) : Prop :=
  login.isNewDevice = true ↔ (∃ other ∈ earlier, other.userId = login.userId) ∧
    ∀ other ∈ earlier, other.userId = login.userId → other.device ≠ login.device

/-- All reports were right when they were made. -/
def AllRight : List DeviceLogin → Prop
  | [] => True
  | login :: earlier => login.Right earlier ∧ AllRight earlier

omit [CommRing T] [LinearOrder T] [FloorRing T] in
theorem Recorded.Faithful.mem_iff {state : Recorded T} (faithful : state.Faithful)
    (entry : Uuid × Device) : entry ∈ state.world.db.devices ↔
      ∃ login ∈ state.logins, (login.userId, login.device) = entry := by
  rw [← List.mem_reverse, faithful, List.mem_map]

theorem recorded_step {before after : Recorded T} {event : AlertEvent T}
    (step : Recorded.Step env before event after) (faithful : before.Faithful)
    (right : AllRight before.logins) : after.Faithful ∧ AllRight after.logins := by
  cases step with
  | tick => exact ⟨faithful, right⟩
  | setUserActive => exact ⟨faithful, right⟩
  | request other =>
    refine ⟨?_, right⟩
    rw [Recorded.Faithful, devices_afterRequest _ other]
    exact faithful
  | @created call record isNewDevice final ran =>
    obtain ⟨reported, devices⟩ := createSession_ok ran
    refine ⟨?_, reported.trans ?_, right⟩
    · change final.working.devices.reverse = _
      rw [devices, List.reverse_append, faithful]
      rfl
    · apply and_congr
      · simp only [faithful.mem_iff]
        grind
      · rw [faithful.mem_iff]
        grind
  | refused => exact ⟨faithful, right⟩

theorem recorded_of_reachable {state : Recorded T} (reachable : (recording env).Reachable state) :
    state.Faithful ∧ AllRight state.logins := by
  apply reachable.invariant fun state => state.Faithful ∧ AllRight state.logins
  · rintro first ⟨noSessions, noLogins⟩
    have devices : first.world.db.devices = [] := by
      rw [Database.devices, noSessions]
      rfl
    simp [Recorded.Faithful, devices, noLogins, AllRight]
  · intro before event after _ holds step
    exact recorded_step step holds.1 holds.2

theorem AllRight.right {later earlier : List DeviceLogin} {login : DeviceLogin}
    (right : AllRight (later ++ login :: earlier)) : login.Right earlier := by
  induction later with
  | nil => exact right.1
  | cons head later inductionHypothesis => exact inductionHypothesis right.2

/-- A device is reported once. -/
theorem AllRight.once {logins : List DeviceLogin} (right : AllRight logins) (userId : Uuid)
    (device : Device) :
    (logins.filter fun login =>
      login.isNewDevice && login.userId = userId && login.device = device).length ≤ 1 := by
  induction logins with
  | nil => simp
  | cons login earlier inductionHypothesis =>
    rw [List.filter_cons]
    split
    next reported =>
      simp only [Bool.and_eq_true, decide_eq_true_eq] at reported
      obtain ⟨⟨isNew, rfl⟩, rfl⟩ := reported
      have none : earlier.filter (fun other => other.isNewDevice && other.userId = login.userId &&
          other.device = login.device) = [] := by
        rw [List.filter_eq_nil_iff]
        intro other member same
        simp only [Bool.and_eq_true, decide_eq_true_eq] at same
        exact (right.1.mp isNew).2 other member same.1.2 same.2
      simp [none]
    next => exact inductionHypothesis right.2

/-- The alerts of a run. -/
structure Recorded.AlertsExact (state : Recorded T) : Prop where
  exact : ∀ later login earlier, state.logins = later ++ login :: earlier →
    (login.isNewDevice = true ↔ (∃ other ∈ earlier, other.userId = login.userId) ∧
      ∀ other ∈ earlier, other.userId = login.userId → other.device ≠ login.device)
  once : ∀ userId device, (state.logins.filter fun login =>
    login.isNewDevice && login.userId = userId && login.device = device).length ≤ 1
  first : ∀ later login earlier, state.logins = later ++ login :: earlier →
    (∀ other ∈ earlier, other.userId ≠ login.userId) → login.isNewDevice = false

/-- In every run each call reports a new device exactly when the user had logged in before, and
never from this device. -/
theorem device_alerts_exact {state : Recorded T} (reachable : (recording env).Reachable state) :
    state.AlertsExact := by
  obtain ⟨-, right⟩ := recorded_of_reachable reachable
  have exact (later : List DeviceLogin) (login : DeviceLogin) (earlier : List DeviceLogin)
      (split : state.logins = later ++ login :: earlier) : login.Right earlier :=
    AllRight.right (split ▸ right)
  refine ⟨exact, right.once, ?_⟩
  intro later login earlier split alone
  rw [Bool.eq_false_iff]
  intro reported
  obtain ⟨⟨other, member, same⟩, -⟩ := (exact later login earlier split).mp reported
  exact alone other member same

/-! ## Alice's devices -/

variable (env) in
/-- The state that a call leads to. -/
def Recorded.afterCall (state : Recorded T) (call : SessionCall T) : Recorded T :=
  match state.world.createSession env call with
  | (.ok (_, isNewDevice), after) =>
    { world := state.world.closed after.working after
      logins := ⟨call.user.id, deviceOf env call.userAgent, isNewDevice⟩ :: state.logins }
  | (.error _, after) => { state with world := state.world.closed state.world.db after }

theorem Recorded.step_afterCall (state : Recorded T) (call : SessionCall T) :
    Recorded.Step env state (.createSession call) (state.afterCall env call) := by
  unfold Recorded.afterCall
  cases ran : state.world.createSession env call with
  | mk result after =>
    cases result with
    | ok created => exact .created ran
    | error => exact .refused ran

/-- `demo` where the header names the browser. -/
def demoBrowsers : Environment ℚ :=
  { demo with parseUserAgent := fun userAgent =>
      { demo.parseUserAgent userAgent with browserFamily := some userAgent } }

/-- Alice has an account and no session yet. -/
def aliceUnseen : World ℚ := { aliceRegistered with db := { aliceRegistered.db with sessions := ∅ } }

def aliceCall (sessionUuid : Uuid) (userAgent : String) : SessionCall ℚ where
  user := alice
  sessionUuid
  refreshJti := sessionUuid + 2
  rememberMe := false
  ip := "203.0.113.7"
  userAgent
  headers := []

/-- Alice logs in on a laptop and signs out everywhere. -/
def aliceSignedOut : Recorded ℚ :=
  let first := Recorded.afterCall demoBrowsers ⟨aliceUnseen, []⟩ (aliceCall 2 "Firefox")
  { first with world := first.world.afterRequest demoBrowsers (withAccess aliceAccess .logoutAll) }

/-- She logs in on a phone, on the laptop again and on the phone again. -/
def aliceSeen : Recorded ℚ :=
  ((aliceSignedOut.afterCall demoBrowsers (aliceCall 10 "Safari")).afterCall demoBrowsers
    (aliceCall 20 "Firefox")).afterCall demoBrowsers (aliceCall 30 "Safari")

/-- Only the first login on the phone is reported, though no session of the laptop was active. -/
theorem device_alerts_of_alice :
    aliceSignedOut.world.db.sessions.rows.map (·.isActive) = [false] ∧
      aliceSeen.logins.map (·.isNewDevice) = [false, false, true, false] ∧
      aliceSeen.AlertsExact := by
  have start : (recording demoBrowsers).Reachable ⟨aliceUnseen, []⟩ := .start ⟨rfl, rfl⟩
  have signedOut : (recording demoBrowsers).Reachable aliceSignedOut :=
    (start.step (Recorded.step_afterCall _ _)).step (.request (by simp [withAccess]))
  have seen : (recording demoBrowsers).Reachable aliceSeen :=
    ((signedOut.step (Recorded.step_afterCall _ _)).step (Recorded.step_afterCall _ _)).step
      (Recorded.step_afterCall _ _)
  exact ⟨by decide +kernel, by decide +kernel, device_alerts_exact seen⟩

end EnterpriseAuth
