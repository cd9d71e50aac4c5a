import EnterpriseAuth.Requests.Interleaved
import EnterpriseAuth.Requests.Keys
import EnterpriseAuth.Requests.Routes

/-!
# Requests that keep to a frame

A request is found to call nothing outside a class of commands by its syntax, whatever its route.
Where the class is that of the statements inside a frame, what is committed keeps to the frame in all
interleavings, and so does what a running request sees.
-/

namespace EnterpriseAuth

open Effects Program OAuthService

-- an instance is found along the whole syntax of a handler
set_option synthInstance.maxSize 1000

variable {T ι : Type}

/-! ## Whole requests -/

namespace Calls

section
variable {allowed : Command T → Prop} [Modest allowed] (env : Environment T)

section
variable [∀ state, Opens allowed (.oauthState state)]

instance startAuthorization (registry : String → Option Provider) (provider : String)
    (mode : OAuthMode) (linkUserId : Option Uuid) :
    Calls allowed (startAuthorization env registry provider mode linkUserId) := by
  unfold OAuthService.startAuthorization; infer_instance

instance popState (state provider : String) : Calls allowed (popState state provider : App T _) := by
  unfold OAuthService.popState
  refine sequence fun stored => ?_
  split <;> infer_instance

variable [CommRing T] [LinearOrder T] [∀ key, Opens allowed (.rateLimit key)]
  (registry : String → Option Provider) (request : HttpRequest)
  [∀ hashedPassword, Updates allowed fun user => { user with hashedPassword }]

instance openRoute [∀ isVerified, Updates allowed fun user => { user with isVerified }]
    [∀ email isVerified, Updates allowed fun user => { user with email, isVerified }]
    (route : OpenRoute) : Calls allowed (EnterpriseAuth.serveOpen env registry request route) := by
  cases route with
  | oauthAuthorize => simp only [EnterpriseAuth.serveOpen, oauthAuthorize]; infer_instance
  | _ => exact serveOpen env registry request _ (by simp)

variable [FloorRing T] [Enrols allowed] [∀ subject, Opens allowed (.lockout subject)]
  [∀ subject, Opens allowed (.failcount subject)]
  [∀ userId otp, Opens allowed (.otpUsed userId otp)] [∀ sid, Opens allowed (.sessionActive sid)]

omit [∀ hashedPassword, Updates allowed fun user => { user with hashedPassword }] in
instance oauthCallback (provider code state : String) :
    Calls allowed (oauthCallback env registry request provider code state) := by
  unfold EnterpriseAuth.oauthCallback OAuthService.handleCallback
  refine sequence fun handled => ?_
  obtain ⟨user, mode⟩ := handled
  infer_instance

instance loginRoute (route : LoginRoute) :
    Calls allowed (EnterpriseAuth.serveLogin env registry request route) := by
  cases route with
  | oauthCallback => simp only [EnterpriseAuth.serveLogin]; infer_instance
  | _ => exact serveLogin env registry request _ (by simp)

end

variable [∀ key, Opens allowed key] [CommRing T] [LinearOrder T]

/-- No route behind the access token writes users. -/
instance protectedRoute (registry : String → Option Provider) (request : HttpRequest)
    (route : ProtectedRoute) : Calls allowed (serveProtected env registry request route) := by
  have served (context : AuthContext T) :
      Calls allowed (EnterpriseAuth.serveWithContext env registry request context route) := by
    cases route with
    | oauthLink => simp only [EnterpriseAuth.serveWithContext, oauthLink]; infer_instance
    | _ => exact serveWithContext env registry request context _ (by simp)
  unfold serveProtected
  infer_instance

variable [FloorRing T] [Enrols allowed]
  [∀ hashedPassword, Updates allowed fun user => { user with hashedPassword }]
  [∀ isVerified, Updates allowed fun user => { user with isVerified }]
  [∀ email isVerified, Updates allowed fun user => { user with email, isVerified }]

instance dispatch (arrival : Arrival) : Calls allowed (EnterpriseAuth.dispatch env arrival) := by
  unfold EnterpriseAuth.dispatch
  cases arrival.route <;> infer_instance

/-- A request calls what its routes need, and nothing else. -/
instance serve (arrival : Arrival) : Calls allowed (EnterpriseAuth.serve env arrival) := by
  unfold EnterpriseAuth.serve getDb
  infer_instance

end

end Calls

/-! ## Frames -/

section
variable {frame : Frame T} {initial : Database T}

instance (key : Key) : Opens (T := T) (Command.Bounded frame) key := ⟨fun _ _ => trivial⟩

/-- A statement inside the frame may be sent. -/
theorem Frame.modest
    (bounds : ∀ change, Database.Statement change → Database.SparesUsers change → frame.Bounds change) :
    Modest (Command.Bounded frame) where
  admits command _ statement := by
    cases command with
    | write change => exact bounds change (statement change rfl).1 (statement change rfl).2
    | redis | now | draw | view | commit | addTask => trivial

/-- What is committed has kept to the frame since the database was `initial`, and so has the
transaction. -/
structure Frame.Kept (frame : Frame T) (initial : Database T) (vantage : RequestVantage T) : Prop where
  inside : vantage.own.2.Inside frame
  committed : frame.holds initial vantage.since.committed

/-- The discipline of requests that keep to the frame. -/
abbrev Frame.plain [CommRing T] [LinearOrder T] (frame : Frame T) :
    Discipline (Command T) Command.Res AppError (Arrival × Transaction T) (Shared T) :=
  frame.discipline fun _ _ _ _ _ => True

variable [CommRing T] [LinearOrder T]

/-- What a request makes of the database that its transaction sees. -/
theorem Frame.of_run (frame : Frame T) {α : Type} {program : App T α} {server final : Server T}
    {result : Except AppError α} [calls : Calls (Command.Bounded frame) program]
    (ran : program.run handle server = (result, final)) :
    frame.holds server.working final.working := by
  have keeps : Keeps handle (fun state => frame.holds server.working state.working) program := by
    refine calls.every.keeps fun command state bounded held => ?_
    cases command with
    | write change =>
      simp only [handle]
      split
      next working changed => exact frame.trans held (bounded _ _ changed)
      next => exact held
    | now | draw | redis | view | commit | addTask => exact held
  have held := keeps.final (frame.refl _)
  rwa [ran] at held

theorem Frame.Kept.command {vantage : RequestVantage T} (kept : frame.Kept initial vantage)
    {command : Command T} (bounded : command.Bounded frame) :
    frame.plain.Permits vantage command vantage.since ∧
      frame.Kept initial (frame.plain.left vantage command vantage.since) :=
  ⟨permits_of_inside kept.inside trivial, inside_concurrently kept.inside bounded vantage.since,
    frame.trans kept.committed (frame_concurrently kept.inside command vantage.since)⟩

theorem Frame.Kept.waits {vantage : RequestVantage T} (kept : frame.Kept initial vantage)
    {shared : Shared T} (evolves : frame.plain.evolves vantage.since shared) :
    frame.Kept initial { vantage with since := shared } :=
  ⟨kept.inside, frame.trans kept.committed evolves⟩

variable {α : Type}

theorem kept_of_every {program : App T α} {wanted : α → Prop}
    (every : program.Every (Command.Bounded frame) wanted) :
    frame.plain.Obeys (frame.Kept initial) program
      (fun value vantage => wanted value ∧ frame.Kept initial vantage)
      fun _ => frame.Kept initial := by
  apply Discipline.Obeys.of_every every
  · exact fun vantage shared kept evolves => kept.waits evolves
  · exact fun command vantage bounded kept _ => kept.command bounded

theorem kept_of_calls (program : App T α) [calls : Calls (Command.Bounded frame) program] :
    frame.plain.Obeys (frame.Kept initial) program (fun _ => frame.Kept initial)
      fun _ => frame.Kept initial :=
  (kept_of_every calls.every).weaken (fun _ => id) (fun _ _ => And.right) fun _ _ => id

/-- A query sees a database that has kept to the frame. -/
theorem kept_view :
    frame.plain.Obeys (frame.Kept initial) view
      (fun db vantage => frame.holds initial db ∧ frame.Kept initial vantage)
      fun _ => frame.Kept initial := by
  apply Discipline.Obeys.call
  intro vantage shared kept evolves _
  have here := kept.waits evolves
  have viewed : (Command.view : Command T).Bounded frame := trivial
  obtain ⟨permits, left⟩ := here.command viewed
  refine ⟨permits, ?_⟩
  split
  next db replied => exact ⟨frame.trans here.committed (here.inside.sees replied), left⟩
  next => exact left

/-! ## Runs -/

variable [FloorRing T] [DecidableEq ι] {env : Environment T} {arrivals : ι → Arrival}
  {drift : Shared T → Shared T → Prop} {pool : RequestPool ι T}

/-- In all interleavings of requests that keep to the frame, what is committed has kept to it, and
so has what a running request sees. -/
theorem Frame.reachable {after : ι → Reply T → RequestVantage T → Prop}
    (reachable : (requests env drift (·.committed = initial) arrivals).Reachable pool)
    (obeys : ∀ i, frame.plain.Obeys (frame.Kept initial) (serve env (arrivals i)) (after i)
      fun _ => frame.Kept initial)
    (drifts : ∀ before after, drift before after → frame.holds before.committed after.committed) :
    (frame.holds initial pool.shared.committed ∧
      ∀ i db, (pool.threads i).Running →
        (pool.threads i).own.2.sees pool.shared.committed = .ok db → frame.holds initial db) ∧
      frame.plain.Orderly after pool := by
  have entered (i : ι) : frame.plain.Obeys
      (fun vantage => vantage.own = (arrivals i, {}) ∧ vantage.log = [] ∧
        vantage.since.committed = initial)
      (serve env (arrivals i)) (after i) fun _ _ => True := by
    apply (obeys i).weaken
    · rintro vantage ⟨own, -, started⟩
      refine ⟨?_, started ▸ frame.refl _⟩
      rw [own]
      simp [Transaction.Inside]
    · exact fun _ _ => id
    · exact fun _ _ _ => trivial
  obtain ⟨held, orderly⟩ := frame.plain.invariant
    (fun pool : RequestPool ι T => frame.holds initial pool.shared.committed)
    reachable.unconditional entered drifts (fun _ _ _ _ _ _ => trivial)
    (fun shared started => started ▸ frame.refl _)
    fun pool turn next _ _ held moves => frame.trans held moves.evolves
  refine ⟨⟨held, ?_⟩, orderly⟩
  rintro i db ⟨command, next, programIs⟩ shows
  obtain ⟨since, evolves, amid⟩ := orderly i
  rw [programIs] at amid
  have inside := (amid pool.shared evolves trivial).1.1.1
  exact frame.trans held (inside.sees shows)

end

end EnterpriseAuth
