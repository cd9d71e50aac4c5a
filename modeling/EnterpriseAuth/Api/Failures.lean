import EnterpriseAuth.Api.System
import EnterpriseAuth.Effects.Faults

/-!
# The service while its stores fail

Any command of Redis, any query, any flush and any commit of a request may fail.  A command of Redis
may have been executed although its reply is lost.  A statement or a commit that fails changes
nothing, and what a request leaves uncommitted is rolled back.
-/

namespace EnterpriseAuth

open Effects

variable {T : Type}

def faultModel : FaultModel (Command T) AppError where
  error
    | .redis _ => some (.redis "ConnectionError")
    | .view | .write _ | .commit => some .operational
    | .now | .draw | .addTask _ => none
  takesEffect
    | .redis _ => true
    | _ => false

/-- Only the commands of Redis fail. -/
def redisFaults : FaultModel (Command T) AppError where
  error
    | .redis _ => some (.redis "ConnectionError")
    | _ => none
  takesEffect _ := true

variable (env : Environment T) [CommRing T] [LinearOrder T]

def failing : Handler (Command T) Command.Res AppError (Faulty (Server T)) :=
  handle.faulty faultModel

theorem clock_handle (command : Command T) (server : Server T) :
    (handle command server).2.clock = server.clock := by
  cases command with
  | write change =>
    simp only [handle]
    split <;> rfl
  | now | draw | redis | view | commit | addTask => rfl

/-- A commit is executed, or fails and changes nothing. -/
theorem failing_commit {before after : Server T → Prop}
    (executed : ∀ server, before server → after (handle .commit server).2)
    (fails : ∀ server, before server → after server) :
    Program.Triple failing (fun faulty => before faulty.state) (commit : App T Unit)
      (fun _ faulty => after faulty.state)
      fun error faulty => error = .operational ∧ after faulty.state := by
  constructor
  intro faulty entered
  have ran : (commit : App T Unit).run failing faulty = _ :=
    (Program.run_call _ _).trans (faulty_of_fallible handle faultModel rfl faulty)
  rw [ran]
  cases faulty.plan.headD .works with
  | works => exact executed _ entered
  | raises => exact ⟨rfl, fails _ entered⟩
  | lost => exact ⟨rfl, fails _ entered⟩

/-- The end of a request that succeeded: whether its commit is executed or not, it is answered. -/
theorem failing_commitAfterResponse {before after : Server T → Prop}
    (executed : ∀ server, before server → after (handle .commit server).2)
    (fails : ∀ server, before server → after server) :
    Program.Triple failing (fun faulty => before faulty.state) (commitAfterResponse : App T Unit)
      (fun _ faulty => after faulty.state) fun _ _ => False := by
  apply (failing_commit executed fails).tryCatch
  intro error
  apply Program.Triple.ite
  · exact fun _ => Program.Triple.pure fun _ failed => failed.2
  · exact fun propagated => Program.Triple.throw fun _ failed => propagated failed.1

inductive FailingEvent (T : Type) where
  | tick (instant : T)
  /-- a request during which operations fail as planned -/
  | request (arrival : Arrival) (plan : List Fate)
  | setUserActive (userId : Uuid) (active : Bool)

section
variable [FloorRing T]

def World.failingRun (world : World T) (arrival : Arrival) (plan : List Fate) :
    Except AppError (Reply T) × Faulty (Server T) :=
  (serve env arrival).run failing { state := world.server, plan }

def World.failingExchange (world : World T) (arrival : Arrival) (plan : List Fate) : Exchange T :=
  let result := world.failingRun env arrival plan
  { before := world.server, arrival, reply := result.1, after := result.2.state }

def World.afterFailing (world : World T) (arrival : Arrival) (plan : List Fate) : World T :=
  let exchange := world.failingExchange env arrival plan
  { db := exchange.after.committed
    redis := exchange.after.redis
    clock := exchange.after.clock
    draws := exchange.after.draws
    history := exchange :: world.history }

inductive World.FailingStep : World T → FailingEvent T → World T → Prop
  | tick {world : World T} {instant : T} (later : world.clock ≤ instant) :
    FailingStep world (.tick instant) { world with clock := instant }
  | request {world : World T} {arrival : Arrival} {plan : List Fate}
    (owned : ∀ token ∈ arrival.presented, world.holds token) :
    FailingStep world (.request arrival plan) (world.afterFailing env arrival plan)
  | setUserActive {world : World T} (userId : Uuid) (active : Bool) :
    FailingStep world (.setUserActive userId active)
      { world with db := { world.db with
        users := world.db.users.modify userId (fun user => { user with isActive := active })
          fun _ => rfl } }

def failingService : System (World T) (FailingEvent T) where
  start := World.Starts
  step := World.FailingStep env

/-- When nothing fails, the service does what it always does. -/
theorem failingExchange_nil (world : World T) (arrival : Arrival) :
    world.failingExchange env arrival [] = world.exchange env arrival := by
  simp only [World.failingExchange, World.failingRun, failing, run_faulty_nil, World.exchange]

theorem afterFailing_nil (world : World T) (arrival : Arrival) :
    world.afterFailing env arrival [] = world.afterRequest env arrival := by
  simp only [World.afterFailing, failingExchange_nil, World.afterRequest]

/-- Nothing fails during the event. -/
def FailingEvent.Faultless : FailingEvent T → Prop
  | .request _ plan => plan = []
  | .tick _ | .setUserActive _ _ => True

variable {env} {world : World T}

/-- A run of the service is one in which nothing fails. -/
theorem guarded_of_faultless {condition : World T → FailingEvent T → Prop}
    (holds : ∀ world event, event.Faultless → condition world event)
    (reachable : (service env).Reachable world) :
    ((failingService env).guarded condition).Reachable world := by
  refine System.Reachable.invariant _ reachable (fun first starts => .start starts) ?_
  intro before event after _ guarded step
  cases step with
  | @tick instant later =>
    have step : ((failingService env).guarded condition).step before (.tick instant)
        { before with clock := instant } := ⟨holds _ _ trivial, .tick later⟩
    exact guarded.step step
  | @request arrival owned =>
    have step : ((failingService env).guarded condition).step before (.request arrival [])
        (before.afterFailing env arrival []) := ⟨holds _ _ rfl, .request owned⟩
    rw [← afterFailing_nil]
    exact guarded.step step
  | setUserActive userId active =>
    have step : ((failingService env).guarded condition).step before
        (.setUserActive userId active) _ := ⟨holds _ _ trivial, .setUserActive userId active⟩
    exact guarded.step step

theorem reachable_failing (reachable : (service env).Reachable world) :
    (failingService env).Reachable world := by
  have guarded : ((failingService env).guarded fun _ _ => True).Reachable world :=
    guarded_of_faultless (fun _ _ _ => trivial) reachable
  exact guarded.of_guarded

end

end EnterpriseAuth
