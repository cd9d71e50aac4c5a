import EnterpriseAuth.Api.Concurrency
import EnterpriseAuth.Guarantees.OneTimeCodes
import EnterpriseAuth.Requests.TwoFactor

/-!
# Setting up the second factor under concurrency

`start_setup` and `confirm_setup` read one row and write different columns of it: the first the
secret, the second that it is enabled.  When one of them commits while the other one is between its
read and its end, a secret is enabled that nobody has confirmed.  Where this does not happen, an
enabled secret is one against which `confirm_setup` has verified a code.
-/

namespace EnterpriseAuth

open Effects Program TwoFactorService

variable {T ι : Type} (env : Environment T)

/-! ## Requests of one user -/

inductive SetupRequest where
  | start (password : String)
  | confirm (otp : String)
  deriving DecidableEq

def SetupRequest.confirms : SetupRequest → Bool
  | .start _ => false
  | .confirm _ => true

/-- The request in its own transaction. -/
def SetupRequest.program (user : User T) : SetupRequest → App T Unit
  | .start password => getDb ((fun _ => ()) <$> startSetup env user password)
  | .confirm otp => getDb (confirmSetup env user otp)

/-- The encrypted secret of the user, as it is stored. -/
def Database.storedSecret (db : Database T) (userId : Uuid) : Option String :=
  (db.twoFactorAuth.find userId).map (·.encryptedSecret)

abbrev SetupLog (T : Type) := List (Performed (Command T) Command.Res AppError (Shared T))

abbrev SetupPool (ι T : Type) :=
  Pool ι (Command T) Command.Res AppError Unit (SetupRequest × Transaction T) (Shared T)

/-- The thread has read the secret, and has verified the code against it. -/
structure VerifiedIn (userId : Uuid) (otp : String) (log : SetupLog T) (encryptedSecret : String) :
    Prop where
  read : ∃ entry ∈ log, entry.op = .view ∧
    entry.found.committed.storedSecret userId = some encryptedSecret
  verified : ∃ entry ∈ log, entry.op = .now ∧ ∃ secret, env.decrypt encryptedSecret = some secret ∧
    env.totpVerify secret otp env.settings.totpValidWindow entry.found.clock = true

/-- The secret was enabled before, or a `confirm_setup` has verified a code against it. -/
def SecretProven (userId : Uuid) (first : Shared T) (pool : SetupPool ι T) (encryptedSecret : String) :
    Prop :=
  (first.committed.TwoFactorOn userId ∧
      first.committed.storedSecret userId = some encryptedSecret) ∨
    ∃ i otp, (pool.threads i).own.1 = .confirm otp ∧
      VerifiedIn env userId otp (pool.threads i).log encryptedSecret

/-- An enabled secret is a proven one. -/
def EnabledProven (userId : Uuid) (first : Shared T) (pool : SetupPool ι T) : Prop :=
  ∀ record, pool.shared.committed.twoFactorAuth.find userId = some record → record.enabled = true →
    SecretProven env userId first pool record.encryptedSecret

/-! ## The runs -/

/-- The thread has read the record and has not come to its end. -/
def InSetup (thread : Thread (Command T) Command.Res AppError Unit (SetupRequest × Transaction T)
    (Shared T)) : Prop :=
  thread.Running ∧ ∃ entry ∈ thread.log, entry.op = .view

/-- No request commits while one of the other kind is between its read and its end. -/
def SetupsApart (pool : SetupPool ι T) : Option ι → Prop
  | none => True
  | some turn => ∀ next, (pool.threads turn).program = .perform .commit next →
      ∀ other, InSetup (pool.threads other) →
        (pool.threads other).own.1.confirms = (pool.threads turn).own.1.confirms

section
variable [CommRing T] [LinearOrder T]

/-- The requests of a user, while others leave the user's second factor alone. -/
def setups [DecidableEq ι] (user : User T) (requests : ι → SetupRequest) (first : Shared T) :
    System (SetupPool ι T) (Option ι) :=
  interleavings (Handler.labelled concurrently)
    (fun before after => after.committed.twoFactorAuth.find user.id =
      before.committed.twoFactorAuth.find user.id)
    (fun i => (requests i).program env user) (fun i => (requests i, {})) (· = first)

/-! ## What a request does before it commits -/

/-- A setup has read a record that is not enabled, and its statements enable none. -/
structure StartFinishes (userId : Uuid) (own : Transaction T) (log : SetupLog T) : Prop where
  read : ∃ entry ∈ log, entry.op = .view ∧ ¬ entry.found.committed.TwoFactorOn userId
  enablesNone : ∀ change ∈ own.statements, ∀ before after, change before = .ok after →
    after.TwoFactorOn userId → before.TwoFactorOn userId

/-- A confirmation has verified a code, and its statements leave the secret alone. -/
structure ConfirmFinishes (userId : Uuid) (otp : String) (own : Transaction T) (log : SetupLog T) :
    Prop where
  verified : ∃ encryptedSecret, VerifiedIn env userId otp log encryptedSecret
  keepsSecret : ∀ change ∈ own.statements, ∀ before after, change before = .ok after →
    after.storedSecret userId = before.storedSecret userId

def Finishes (userId : Uuid) : SetupRequest × Transaction T → SetupLog T → Prop
  | (.start _, own), log => StartFinishes userId own log
  | (.confirm otp, own), log => ConfirmFinishes env userId otp own log

def setupDiscipline (userId : Uuid) :
    Discipline (Command T) Command.Res AppError (SetupRequest × Transaction T) (Shared T) where
  handle := Handler.labelled concurrently
  evolves _ _ := True
  refl _ := trivial
  trans _ _ := trivial
  granted _ _ _ := True
  allowed own log op _ := op = .commit → Finishes env userId own log

variable {env} {userId : Uuid} {first : Shared T} {pool : SetupPool ι T}

/-- What holds along the runs: what a request has read of the record is still so. -/
structure Setup (env : Environment T) (userId : Uuid) (first : Shared T) (pool : SetupPool ι T) :
    Prop where
  proven : EnabledProven env userId first pool
  starts : ∀ i, (pool.threads i).own.1.confirms = false → (pool.threads i).Running →
    ∀ entry ∈ (pool.threads i).log, entry.op = .view → ¬ entry.found.committed.TwoFactorOn userId →
      ¬ pool.shared.committed.TwoFactorOn userId
  confirms : ∀ i, (pool.threads i).own.1.confirms = true → (pool.threads i).Running →
    ∀ entry ∈ (pool.threads i).log, entry.op = .view →
      entry.found.committed.storedSecret userId = pool.shared.committed.storedSecret userId

omit [CommRing T] [LinearOrder T] in
/-- What is enabled at the start counts as proven. -/
theorem Setup.fresh (fresh : ∀ i, (pool.threads i).log = []) (isFirst : pool.shared = first) :
    Setup env userId first pool where
  proven record found enabled := by
    subst isFirst
    refine .inl ⟨⟨record, found, enabled⟩, ?_⟩
    rw [Database.storedSecret, found]
    rfl
  starts i _ _ entry member := by
    rw [fresh i] at member
    cases member
  confirms i _ _ entry member := by
    rw [fresh i] at member
    cases member

/-- The logs grow by an entry for what was found, and nothing starts to run. -/
structure Grows (pool next : SetupPool ι T) : Prop where
  request : ∀ i, (next.threads i).own.1 = (pool.threads i).own.1
  running : ∀ i, (next.threads i).Running → (pool.threads i).Running
  keeps : ∀ i, ∀ entry ∈ (pool.threads i).log, entry ∈ (next.threads i).log
  new : ∀ i, ∀ entry ∈ (next.threads i).log,
    entry ∈ (pool.threads i).log ∨ entry.found = pool.shared

omit [CommRing T] [LinearOrder T] in
theorem SecretProven.mono {next : SetupPool ι T} (grows : Grows pool next) {encryptedSecret : String}
    (proven : SecretProven env userId first pool encryptedSecret) :
    SecretProven env userId first next encryptedSecret := by
  rcases proven with before | ⟨i, otp, request, ⟨read, isView, found⟩, asked, isNow, verified⟩
  · exact .inl before
  · refine .inr ⟨i, otp, (grows.request i).trans request, ?_, ?_⟩
    · exact ⟨read, grows.keeps i read isView, found⟩
    · exact ⟨asked, grows.keeps i asked isNow, verified⟩

omit [CommRing T] [LinearOrder T] in
/-- A step that leaves the record alone. -/
theorem Setup.quiet {next : SetupPool ι T} (setup : Setup env userId first pool)
    (grows : Grows pool next)
    (same : next.shared.committed.twoFactorAuth.find userId =
      pool.shared.committed.twoFactorAuth.find userId) : Setup env userId first next where
  proven record found enabled := (setup.proven record (same ▸ found) enabled).mono grows
  starts i request running entry member isView off := by
    have stays : ¬ pool.shared.committed.TwoFactorOn userId := by
      rcases grows.new i entry member with old | found
      · exact setup.starts i (grows.request i ▸ request) (grows.running i running) entry old isView off
      · rwa [← found]
    rwa [Database.TwoFactorOn, same]
  confirms i request running entry member isView := by
    have sameSecret : next.shared.committed.storedSecret userId =
        pool.shared.committed.storedSecret userId := by
      rw [Database.storedSecret, same]
      rfl
    rw [sameSecret]
    rcases grows.new i entry member with old | found
    · exact setup.confirms i (grows.request i ▸ request) (grows.running i running) entry old isView
    · rw [found]

omit [CommRing T] [LinearOrder T] in
theorem StartFinishes.enables_none {own : Transaction T} {log : SetupLog T}
    (finishes : StartFinishes userId own log) {committed db : Database T}
    (shows : own.sees committed = .ok db) (on : db.TwoFactorOn userId) :
    committed.TwoFactorOn userId :=
  Transaction.sees_relation (fun before after => after.TwoFactorOn userId → before.TwoFactorOn userId)
    (fun _ => id) (fun _ _ _ first second later => first (second later)) finishes.enablesNone shows on

omit [CommRing T] [LinearOrder T] in
theorem ConfirmFinishes.keeps_secret {otp : String} {own : Transaction T} {log : SetupLog T}
    (finishes : ConfirmFinishes env userId otp own log) {committed db : Database T}
    (shows : own.sees committed = .ok db) : db.storedSecret userId = committed.storedSecret userId :=
  Transaction.sees_relation
    (fun before after => after.storedSecret userId = before.storedSecret userId)
    (fun _ => rfl) (fun _ _ _ first second => second.trans first) finishes.keepsSecret shows

omit [CommRing T] [LinearOrder T] in
/-- A commit, where no request of the other kind is amid its own. -/
theorem Setup.commits {next : SetupPool ι T} {turn : ι} (setup : Setup env userId first pool)
    (grows : Grows pool next)
    (views : ∀ i, ∀ entry ∈ (next.threads i).log, entry.op = .view → entry ∈ (pool.threads i).log)
    (running : (pool.threads turn).Running)
    (apart : ∀ other, InSetup (pool.threads other) →
      (pool.threads other).own.1.confirms = (pool.threads turn).own.1.confirms)
    (finishes : Finishes env userId (pool.threads turn).own (pool.threads turn).log)
    (shows : (pool.threads turn).own.2.sees pool.shared.committed = .ok next.shared.committed) :
    Setup env userId first next := by
  have sameKind (i : ι) (stillRuns : (next.threads i).Running)
      (entry : Performed (Command T) Command.Res AppError (Shared T))
      (member : entry ∈ (next.threads i).log) (isView : entry.op = .view) :
      (next.threads i).own.1.confirms = (pool.threads turn).own.1.confirms := by
    rw [grows.request i]
    exact apart i ⟨grows.running i stillRuns, entry, views i entry member isView, isView⟩
  rcases ownIs : (pool.threads turn).own with ⟨request, own⟩
  rw [ownIs] at finishes shows sameKind
  cases request with
  | start password =>
    -- a setup writes a record that is not enabled, over one that it read as such
    have off : ¬ next.shared.committed.TwoFactorOn userId := by
      intro on
      obtain ⟨entry, member, isView, wasOff⟩ := finishes.read
      exact setup.starts turn (by rw [ownIs]; rfl) running entry member isView wasOff
        (StartFinishes.enables_none finishes shows on)
    refine ⟨fun record found enabled => absurd ⟨record, found, enabled⟩ off,
      fun _ _ _ _ _ _ _ => off, fun i request stillRuns entry member isView => ?_⟩
    have other := sameKind i stillRuns entry member isView
    rw [request] at other
    cases other
  | confirm otp =>
    -- a confirmation changes the flag only, so the secret it verified is the stored one
    have same := ConfirmFinishes.keeps_secret finishes shows
    obtain ⟨encryptedSecret, verifiedIn⟩ := finishes.verified
    obtain ⟨read, member, isView, found⟩ := verifiedIn.read
    have current := setup.confirms turn (by rw [ownIs]; rfl) running read member isView
    have stored : next.shared.committed.storedSecret userId = some encryptedSecret := by
      rw [same, ← current, found]
    refine ⟨fun record isRecord enabled => ?_, fun i request stillRuns entry member isView => ?_,
      fun i request stillRuns entry member isView => ?_⟩
    · have isSecret : record.encryptedSecret = encryptedSecret := by
        simpa [Database.storedSecret, isRecord] using stored
      rw [isSecret]
      exact SecretProven.mono grows (.inr ⟨turn, otp, by rw [ownIs], verifiedIn⟩)
    · have other := sameKind i stillRuns entry member isView
      rw [request] at other
      cases other
    · rw [same]
      exact setup.confirms i (grows.request i ▸ request) (grows.running i stillRuns) entry
        (views i entry member isView) isView

variable [DecidableEq ι]

omit [CommRing T] [LinearOrder T] in
/-- What the step of one thread makes of the pool. -/
theorem grows_act {turn : ι} {op : Command T} {rest : Except AppError op.Res → App T Unit}
    (programIs : (pool.threads turn).program = .perform op rest)
    {thread : Thread (Command T) Command.Res AppError Unit (SetupRequest × Transaction T) (Shared T)}
    {reply : Except AppError op.Res} (request : thread.own.1 = (pool.threads turn).own.1)
    (log : thread.log = ⟨op, reply, pool.shared⟩ :: (pool.threads turn).log) (shared : Shared T) :
    Grows pool ⟨Function.update pool.threads turn thread, shared⟩ where
  request i := by
    by_cases same : i = turn
    · subst same; simpa using request
    · simp [same]
  running i running := by
    by_cases same : i = turn
    · subst same; exact ⟨op, rest, programIs⟩
    · simpa [same] using running
  keeps i entry member := by
    by_cases same : i = turn
    · subst same; simp [log, member]
    · simpa [same] using member
  new i entry member := by
    by_cases same : i = turn
    · subst same
      simp only [Function.update_self, log, List.mem_cons] at member
      rcases member with rfl | old
      · exact .inr rfl
      · exact .inl old
    · exact .inl (by simpa [same] using member)

/-- What one step keeps. -/
theorem Setup.step {next : SetupPool ι T} {turn : Option ι} (setup : Setup env userId first pool)
    (apart : SetupsApart pool turn)
    (moves : (setupDiscipline env userId).Moves (fun before after =>
      after.committed.twoFactorAuth.find userId = before.committed.twoFactorAuth.find userId)
      pool turn next) : Setup env userId first next := by
  cases moves with
  | drift same => exact setup.quiet ⟨fun _ => rfl, fun _ => id, fun _ _ => id, fun _ _ => .inl⟩ same
  | @act turn op rest programIs vantage ownIs logIs permits thread left =>
    have running : (pool.threads turn).Running := ⟨op, rest, programIs⟩
    have log : thread.log = ⟨op, ((setupDiscipline env userId).handle op
        (vantage.own, pool.shared)).1, pool.shared⟩ :: (pool.threads turn).log := by
      rw [left, ← logIs]
      rfl
    have request : thread.own.1 = (pool.threads turn).own.1 := by
      rw [left, ← ownIs]
      rfl
    have grows := grows_act programIs request log
      ((setupDiscipline env userId).left vantage op pool.shared).since
    -- the committed record changes only where a transaction commits
    by_cases isCommit : op = .commit
    · subst isCommit
      have finishes := permits.1 rfl
      rw [ownIs, logIs] at finishes
      cases shows : vantage.own.2.sees pool.shared.committed with
      | error error =>
        refine setup.quiet grows ?_
        simp [Discipline.left, setupDiscipline, Handler.labelled, concurrently, shows]
      | ok db =>
        refine setup.commits grows (fun i entry member isView => ?_) running (apart rest programIs)
          finishes ?_
        · by_cases same : i = turn
          · subst same
            simp only [Function.update_self, log, List.mem_cons] at member
            rcases member with rfl | old
            · cases isView
            · exact old
          · simpa only [Function.update_of_ne same] using member
        · rw [ownIs] at shows
          simp [Discipline.left, setupDiscipline, Handler.labelled, concurrently, shows, ownIs]
    · refine setup.quiet grows ?_
      have same := committed_concurrently isCommit vantage.own.2 pool.shared
      exact congrArg (·.twoFactorAuth.find userId) same

/-! ## Requests keep to the discipline -/

omit [DecidableEq ι]

/-- The log shows that the database was seen as it is committed. -/
def Saw (db : Database T) (log : SetupLog T) : Prop :=
  ∃ entry ∈ log, entry.op = .view ∧ entry.found.committed = db

omit [CommRing T] [LinearOrder T] in
theorem Saw.cons {db : Database T} {log : SetupLog T} (saw : Saw db log)
    (entry : Performed (Command T) Command.Res AppError (Shared T)) : Saw db (entry :: log) := by
  obtain ⟨read, member, isView⟩ := saw
  exact ⟨read, .tail _ member, isView⟩

/-- A call that commits nothing. -/
theorem setup_call {command : Command T} (notCommit : command ≠ .commit)
    {before : Vantage (Command T) Command.Res AppError (SetupRequest × Transaction T) (Shared T) →
      Prop}
    {after : Command.Res command →
      Vantage (Command T) Command.Res AppError (SetupRequest × Transaction T) (Shared T) → Prop}
    (step : ∀ vantage shared, before vantage → ∀ result,
      (concurrently command (vantage.own.2, shared)).1 = .ok result →
      after result ((setupDiscipline env userId).left vantage command shared)) :
    (setupDiscipline env userId).Obeys before (Program.call command) after fun _ _ => True := by
  refine .call fun vantage shared holds _ _ =>
    ⟨⟨fun isCommit => absurd isCommit notCommit, trivial⟩, ?_⟩
  split
  next result replied => exact step vantage shared holds result replied
  next => trivial

variable {request : SetupRequest}

theorem setup_view :
    (setupDiscipline env userId).Obeys (fun vantage => vantage.own = (request, {}))
      (view : App T (Database T)) (fun db vantage => vantage.own = (request, {}) ∧ Saw db vantage.log)
      fun _ _ => True := by
  refine setup_call (by simp) fun vantage shared own db replied => ?_
  rw [own] at replied
  cases replied
  exact ⟨own, _, List.mem_cons_self, rfl, rfl⟩

theorem setup_draw {db : Database T} :
    (setupDiscipline env userId).Obeys
      (fun vantage => vantage.own = (request, {}) ∧ Saw db vantage.log) (uuid4 : App T Uuid)
      (fun _ vantage => vantage.own = (request, {}) ∧ Saw db vantage.log) fun _ _ => True :=
  setup_call (by simp) fun _ _ known _ _ => ⟨known.1, known.2.cons _⟩

theorem setup_now {db : Database T} :
    (setupDiscipline env userId).Obeys
      (fun vantage => vantage.own = (request, {}) ∧ Saw db vantage.log) (now : App T T)
      (fun instant vantage => vantage.own = (request, {}) ∧ Saw db vantage.log ∧
        ∃ entry ∈ vantage.log, entry.op = .now ∧ entry.found.clock = instant) fun _ _ => True := by
  refine setup_call (by simp) fun _ _ known instant replied => ?_
  cases replied
  exact ⟨known.1, known.2.cons _, _, List.mem_cons_self, rfl, rfl⟩

/-- The one statement of a request, with which it may commit. -/
theorem setup_statement (known : SetupLog T → Prop)
    (change : Database T → Except AppError (Database T))
    (finishes : ∀ entry log, known log →
      Finishes env userId (request, { statements := [change] }) (entry :: log)) :
    (setupDiscipline env userId).Obeys
      (fun vantage => vantage.own = (request, {}) ∧ known vantage.log) (write change : App T Unit)
      (fun _ vantage => Finishes env userId vantage.own vantage.log) fun _ _ => True := by
  refine setup_call (by simp) fun vantage shared known result replied => ?_
  cases changed : Transaction.sees vantage.own.2 shared.committed >>= change with
  | ok =>
    simp only [setupDiscipline, Discipline.left, Handler.labelled, concurrently, changed]
    rw [known.1]
    exact finishes _ _ known.2
  | error => simp [concurrently, changed] at replied

theorem setup_commits {α : Type} {program : App T α}
    {before : Vantage (Command T) Command.Res AppError (SetupRequest × Transaction T) (Shared T) →
      Prop}
    (obeys : (setupDiscipline env userId).Obeys before program
      (fun _ vantage => Finishes env userId vantage.own vantage.log) fun _ _ => True) :
    (setupDiscipline env userId).Obeys before (getDb program) (fun _ _ => True) fun _ _ => True := by
  have commits : (setupDiscipline env userId).Obeys
      (fun vantage => Finishes env userId vantage.own vantage.log) (commit : App T Unit)
      (fun _ _ => True) fun _ _ => True := by
    refine .call fun vantage shared finishes _ _ => ⟨⟨fun _ => finishes, trivial⟩, ?_⟩
    split <;> trivial
  refine obeys.bind fun _ => (commits.tryCatch fun error => ?_).bind fun _ => .pure fun _ => id
  exact .ite (fun _ => .pure fun _ => id) fun _ => .throw fun _ => id

/-! ### The two requests -/

theorem obeys_startSetup (user : User T) (password : String) :
    (setupDiscipline env user.id).Obeys (fun vantage => vantage.own = (.start password, {}))
      (startSetup env user password)
      (fun _ vantage => Finishes env user.id vantage.own vantage.log) fun _ _ => True := by
  have asked : (setupDiscipline env user.id).Obeys
      (fun vantage => vantage.own = (.start password, {})) (requirePassword env user password)
      (fun _ vantage => vantage.own = (.start password, {})) fun _ _ => True :=
    .ite (fun _ => .throw fun _ _ => trivial) fun _ => .pure fun _ => id
  simp only [startSetup, throw_bind]
  refine asked.bind fun _ => setup_view.bind fun db => ?_
  refine .ite (fun _ => .throw fun _ _ => trivial) fun disabled => ?_
  refine setup_draw.bind fun secretDraw => setup_draw.bind fun nonce => ?_
  have off : ¬ db.TwoFactorOn user.id := by
    rintro ⟨record, found, enabled⟩
    exact disabled (by simp [found, enabled])
  -- a statement that enables none is one with which a setup may commit
  have writes (change : Database T → Except AppError (Database T))
      (enablesNone : ∀ before after, change before = .ok after → after.TwoFactorOn user.id →
        before.TwoFactorOn user.id) :
      (setupDiscipline env user.id).Obeys
        (fun vantage => vantage.own = (.start password, {}) ∧ Saw db vantage.log)
        (do
          write change
          return env.randomBase32 secretDraw : App T String)
        (fun _ vantage => Finishes env user.id vantage.own vantage.log) fun _ _ => True := by
    have finishes (entry) (log) (saw : Saw db log) : Finishes env user.id
        (.start password, { statements := [change] }) (entry :: log) := by
      change StartFinishes user.id { statements := [change] } (entry :: log)
      obtain ⟨read, member, isView, isDb⟩ := saw
      refine ⟨⟨read, .tail _ member, isView, isDb ▸ off⟩, fun other member => ?_⟩
      rw [List.mem_singleton.mp member]
      exact enablesNone
    exact (setup_statement (Saw db) change finishes).bind fun _ => .pure fun _ => id
  cases found : db.twoFactorAuth.find user.id with
  | none =>
    refine writes _ fun before after changed on => ?_
    obtain ⟨record, isRecord, enabled⟩ := on
    obtain ⟨-, -, table, inserted, rfl⟩ := Database.insertTwoFactorAuth_ok changed
    rw [Table.find_insert inserted] at isRecord
    split at isRecord
    · cases isRecord
      cases enabled
    · exact ⟨record, isRecord, enabled⟩
  | some loaded =>
    refine writes _ fun before after changed on => ?_
    obtain ⟨record, isRecord, enabled⟩ := on
    obtain ⟨_, -, -, rfl⟩ := Database.updateTwoFactorAuth_ok changed
    rw [Table.find_modify, if_pos rfl] at isRecord
    obtain ⟨old, isOld, rfl⟩ := Option.map_eq_some_iff.mp isRecord
    refine ⟨old, isOld, ?_⟩
    -- the column is left as it is, or is set to false
    simp only [restarted] at enabled
    split at enabled
    · cases enabled
    · exact enabled

theorem obeys_confirmSetup (user : User T) (otp : String) :
    (setupDiscipline env user.id).Obeys (fun vantage => vantage.own = (.confirm otp, {}))
      (confirmSetup env user otp)
      (fun _ vantage => Finishes env user.id vantage.own vantage.log) fun _ _ => True := by
  simp only [confirmSetup, throw_bind]
  refine setup_view.bind fun db => ?_
  cases found : db.twoFactorAuth.find user.id with
  | none => exact .throw fun _ _ => trivial
  | some record =>
    refine .ite (fun _ => .throw fun _ _ => trivial) fun disabled => ?_
    unfold TwoFactorService.decrypt
    cases decrypted : env.decrypt record.encryptedSecret with
    | none => exact .throw fun _ _ => trivial
    | some secret =>
      refine setup_now.bind fun instant => .ite (fun _ => .throw fun _ _ => trivial) fun valid => ?_
      rw [Bool.not_eq_true, Bool.not_eq_false'] at valid
      refine setup_statement (fun log => Saw db log ∧
        ∃ entry ∈ log, entry.op = .now ∧ entry.found.clock = instant) _ fun entry log known => ?_
      obtain ⟨⟨read, isRead, isView, isDb⟩, asked, isAsked, isNow, clock⟩ := known
      have verifiedIn : VerifiedIn env user.id otp (entry :: log) record.encryptedSecret := by
        refine ⟨⟨read, .tail _ isRead, isView, ?_⟩, asked, .tail _ isAsked, isNow, secret, decrypted,
          clock ▸ valid⟩
        rw [isDb, Database.storedSecret, found]
        rfl
      change ConfirmFinishes env user.id otp { statements := [_] } (entry :: log)
      refine ⟨⟨_, verifiedIn⟩, fun change member before after changed => ?_⟩
      obtain rfl := List.mem_singleton.mp member
      obtain ⟨_, -, -, rfl⟩ := Database.updateTwoFactorAuth_ok changed
      simp only [Database.storedSecret, Table.find_modify, if_pos, Option.map_map]
      rfl

/-- In the runs in which no request commits while one of the other kind is between its read and its
end, an enabled secret is a proven one. -/
theorem enabled_secret_proven [DecidableEq ι] {user : User T} {requests : ι → SetupRequest}
    {first : Shared T} {pool : SetupPool ι T}
    (reachable : ((setups env user requests first).guarded SetupsApart).Reachable pool) :
    EnabledProven env user.id first pool := by
  have obeys (i : ι) : (setupDiscipline env user.id).Obeys
      (fun vantage => vantage.own = (requests i, {}) ∧ vantage.log = [] ∧ vantage.since = first)
      ((requests i).program env user) (fun _ _ => True) fun _ _ => True := by
    cases requests i with
    | start password =>
      exact (setup_commits (obeys_startSetup user password).map).enter fun _ fresh => fresh.1
    | confirm otp => exact (setup_commits (obeys_confirmSetup user otp)).enter fun _ fresh => fresh.1
  have invariant := (setupDiscipline env user.id).invariant (Setup env user.id first) reachable obeys
    (fun _ _ _ => trivial) (fun _ _ _ _ _ _ => trivial)
    (fun _ isFirst => .fresh (fun _ => rfl) isFirst)
    fun pool turn next apart _ setup moves => setup.step apart moves
  exact invariant.1.proven

end

/-! ## A setup and a confirmation -/

/-- `demo` with a new secret for each setup. -/
def demoFreshSecrets : Environment ℚ := { demo with randomBase32 := fun draw => s!"SECRET{draw}" }

/-- Alice has begun a setup and has not confirmed it. -/
def alicePending : World ℚ :=
  World.new.play demoFreshSecrets
    [.request registerAlice,
      .request { http := {}, route := .openTo (.verifyEmail "url-safe-token-6") },
      .request (withAccess aliceAccess (.twoFactorSetup "Str0ng!pass"))]

/-- Alice confirms the setup, and begins another one. -/
def aliceSetups : Bool → SetupRequest
  | false => .confirm "100000"
  | true => .start "Str0ng!pass"

def alicePool : SetupPool Bool ℚ :=
  ⟨fun i => ⟨(aliceSetups i).program demoFreshSecrets alice, (aliceSetups i, {}), []⟩,
    alicePending.shared⟩

theorem apart_of_idle {pool : SetupPool Bool ℚ} {turn : Bool}
    (idle : (pool.threads !turn).idle = true) : SetupsApart pool (some turn) := by
  rintro _ - other ⟨⟨op, next, programIs⟩, entry, member, -⟩
  by_cases same : other = turn
  · rw [same]
  · rw [← Bool.eq_not.mpr same, Thread.idle, programIs, List.isEmpty_iff] at idle
    rw [idle] at member
    cases member

/-- The other setup first and then the confirmation: its secret is enabled, and proven. -/
theorem enabled_secret_proven_in_turn :
    EnabledProven demoFreshSecrets alice.id alicePending.shared
      (alicePool.afterTurns (Handler.labelled concurrently)
        (fun pool turn => (pool.threads !turn).idle)
        (List.replicate 5 true ++ List.replicate 4 false)) := by
  have reachable : ((setups demoFreshSecrets alice aliceSetups alicePending.shared).guarded
      SetupsApart).Reachable (alicePool.afterTurns (Handler.labelled concurrently)
        (fun pool turn => (pool.threads !turn).idle)
        (List.replicate 5 true ++ List.replicate 4 false)) :=
    Pool.reachable_afterTurns rfl (fun pool turn idle => apart_of_idle idle) (by decide +kernel)
  exact enabled_secret_proven reachable

/-- Once the confirmation has verified the code, the other setup has all its turns, and then the
confirmation updates the record and commits. -/
def aliceMerged : SetupPool Bool ℚ :=
  alicePool.afterTurns (Handler.labelled concurrently) (fun _ _ => true)
    (List.replicate 2 false ++ List.replicate 5 true ++ List.replicate 2 false)

/-- The entry is no look at the secret. -/
def looksAway (userId : Uuid) (encryptedSecret : String)
    (entry : Performed (Command ℚ) Command.Res AppError (Shared ℚ)) : Bool :=
  match entry.op with
  | .view => entry.found.committed.storedSecret userId != some encryptedSecret
  | _ => true

theorem not_verifiedIn {env : Environment ℚ} {userId : Uuid} {otp encryptedSecret : String}
    {log : SetupLog ℚ} (away : log.all (looksAway userId encryptedSecret) = true) :
    ¬ VerifiedIn env userId otp log encryptedSecret := by
  rintro ⟨⟨entry, member, isView, found⟩, -⟩
  have looks := List.all_eq_true.mp away entry member
  simp [looksAway, isView, found] at looks

/-- The confirmation has verified a code against the first secret, and the second one is enabled. -/
theorem unproven_secret_enabled :
    ¬ ∀ pool, (setups demoFreshSecrets alice aliceSetups alicePending.shared).Reachable pool →
      EnabledProven demoFreshSecrets alice.id alicePending.shared pool := by
  intro proven
  have reachable : (setups demoFreshSecrets alice aliceSetups alicePending.shared).Reachable
      aliceMerged :=
    Pool.reachable_schedule rfl (by decide +kernel)
  have enabled : (aliceMerged.shared.committed.twoFactorAuth.find alice.id).any
      fun record => record.enabled && record.encryptedSecret == "SECRET9" := by decide +kernel
  have wasOff : (alicePending.shared.committed.twoFactorAuth.find alice.id).all (!·.enabled) := by
    decide +kernel
  have away : ∀ i, (aliceMerged.threads i).log.all (looksAway alice.id "SECRET9") = true := by
    decide +kernel
  obtain ⟨record, found, isOn⟩ := (Option.any_eq_true _ _).mp enabled
  simp only [Bool.and_eq_true, beq_iff_eq] at isOn
  have shown := proven _ reachable record found isOn.1
  rw [isOn.2] at shown
  rcases shown with ⟨⟨old, isOld, wasOn⟩, -⟩ | ⟨i, otp, -, verifiedIn⟩
  · rw [isOld, Option.all_some, wasOn] at wasOff
    cases wasOff
  · exact not_verifiedIn (away i) verifiedIn

end EnterpriseAuth
