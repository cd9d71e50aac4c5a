import EnterpriseAuth.Api.System
import EnterpriseAuth.Effects.Interleaving

/-!
# Requests that run at the same time

Requests share Redis, the clock and the committed database, and each has a transaction of its own at
READ COMMITTED: a query sees what is committed when it is made, and the statements that its own
transaction has made.  A commit makes those statements on what is committed by then.

PostgreSQL lets a statement wait for the transactions that have written the same row.  The runs here
include those in which it does not wait, so what holds of all of them holds of the runs in which it
does.  A request that has no company runs as `handle` runs it.
-/

namespace EnterpriseAuth

open Effects Program

variable {T : Type}

/-- What a request has done that no other one sees yet. -/
structure Transaction (T : Type) where
  statements : List (Database T → Except AppError (Database T)) := []
  tasks : List Mail := []

structure Shared (T : Type) where
  committed : Database T
  redis : RedisStore T
  clock : T
  draws : ℕ

/-- What the requests find that arrive in a world. -/
def World.shared (world : World T) : Shared T where
  committed := world.db
  redis := world.redis
  clock := world.clock
  draws := world.draws

/-- The database with the statements of the transaction. -/
def Transaction.sees (transaction : Transaction T) (committed : Database T) :
    Except AppError (Database T) :=
  transaction.statements.foldlM (fun db change => change db) committed

/-- What each of the statements does to a database, all of them do together. -/
theorem Transaction.sees_relation (relation : Database T → Database T → Prop)
    (refl : ∀ db, relation db db)
    (trans : ∀ first second third, relation first second → relation second third →
      relation first third) {own : Transaction T}
    (each : ∀ change ∈ own.statements, ∀ before after, change before = .ok after →
      relation before after) {committed db : Database T} (shows : own.sees committed = .ok db) :
    relation committed db := by
  obtain ⟨statements, tasks⟩ := own
  induction statements generalizing committed with
  | nil => cases shows; exact refl _
  | cons change statements inductionHypothesis =>
    simp only [sees, List.foldlM_cons] at shows inductionHypothesis
    cases changed : change committed with
    | error error => rw [changed] at shows; cases shows
    | ok middle =>
      rw [changed] at shows
      exact trans _ _ _ (each change List.mem_cons_self _ _ changed)
        (inductionHypothesis (fun other member => each other (.tail _ member)) shows)

/-- A transaction fails with an error of one of its statements. -/
theorem Transaction.sees_error {fails : AppError → Prop} {own : Transaction T}
    (each : ∀ change ∈ own.statements, ∀ before error, change before = .error error → fails error)
    {committed : Database T} {error : AppError} (refused : own.sees committed = .error error) :
    fails error := by
  obtain ⟨statements, tasks⟩ := own
  induction statements generalizing committed with
  | nil => cases refused
  | cons change statements inductionHypothesis =>
    simp only [sees, List.foldlM_cons] at refused inductionHypothesis
    cases changed : change committed with
    | error first =>
      rw [changed] at refused
      cases refused
      exact each change List.mem_cons_self _ _ changed
    | ok middle =>
      rw [changed] at refused
      exact inductionHypothesis (fun other member => each other (.tail _ member)) refused

section
variable [CommRing T] [LinearOrder T]

def concurrently : Handler (Command T) Command.Res AppError (Transaction T × Shared T)
  | .now, (own, shared) => (.ok shared.clock, own, shared)
  | .draw, (own, shared) => (.ok shared.draws, own, { shared with draws := shared.draws + 1 })
  | .redis command, (own, shared) =>
    let (reply, redis) := command.execute shared.clock shared.redis
    (reply, own, { shared with redis })
  | .view, (own, shared) => (own.sees shared.committed, own, shared)
  | .write change, (own, shared) =>
    match own.sees shared.committed >>= change with
    | .ok _ => (.ok (), { own with statements := own.statements ++ [change] }, shared)
    | .error error => (.error error, own, shared)
  | .commit, (own, shared) =>
    match own.sees shared.committed with
    | .ok committed => (.ok (), { own with statements := [] }, { shared with committed })
    | .error error => (.error error, { own with statements := [] }, shared)
  | .addTask mail, (own, shared) => (.ok (), { own with tasks := own.tasks ++ [mail] }, shared)

/-- Only a commit changes what is committed. -/
theorem committed_concurrently {command : Command T} (notCommit : command ≠ .commit)
    (own : Transaction T) (shared : Shared T) :
    (concurrently command (own, shared)).2.2.committed = shared.committed := by
  cases command with
  | commit => exact absurd rfl notCommit
  | write change =>
    simp only [concurrently]
    split <;> rfl
  | now | draw | redis | view | addTask => rfl

omit [CommRing T] [LinearOrder T] in
/-- The commit at the end of a request whose statements were all executed. -/
theorem obeys_commitAfterResponse {ω σ : Type}
    {discipline : Discipline (Command T) Command.Res AppError ω σ}
    {before after : Vantage (Command T) Command.Res AppError ω σ → Prop}
    (commits : discipline.Obeys before (commit : App T Unit) (fun _ => after)
      fun error _ => error ≠ .operational) :
    discipline.Obeys before (commitAfterResponse : App T Unit) (fun _ => after) fun _ _ => True := by
  refine commits.tryCatch fun error => .ite (fun swallowed => ?_) fun _ => .throw fun _ _ => trivial
  exact .pure fun _ executed => absurd swallowed executed

/-! ## A request alone -/

/-- The server as the request sees it. -/
structure Alone (own : Transaction T) (shared : Shared T) (server : Server T) : Prop where
  committed : server.committed = shared.committed
  working : own.sees shared.committed = .ok server.working
  redis : server.redis = shared.redis
  clock : server.clock = shared.clock
  draws : server.draws = shared.draws
  tasks : server.tasks = own.tasks

omit [CommRing T] [LinearOrder T] in
theorem Transaction.sees_append (own : Transaction T)
    (change : Database T → Except AppError (Database T)) (committed : Database T) :
    ({ own with statements := own.statements ++ [change] } : Transaction T).sees committed =
      own.sees committed >>= change := by
  simp [sees, List.foldlM_append]

theorem Alone.command {own : Transaction T} {shared : Shared T} {server : Server T}
    (alone : Alone own shared server) (command : Command T) :
    (concurrently command (own, shared)).1 = (handle command server).1 ∧
      Alone (concurrently command (own, shared)).2.1 (concurrently command (own, shared)).2.2
        (handle command server).2 := by
  obtain ⟨committed, working, redis, clock, draws, tasks⟩ := alone
  cases command with
  | now => exact ⟨by simp [concurrently, handle, clock], committed, working, redis, clock, draws, tasks⟩
  | draw =>
    refine ⟨by simp [concurrently, handle, draws], committed, working, redis, clock, ?_, tasks⟩
    simp [concurrently, handle, draws]
  | redis command =>
    simp only [concurrently, handle, clock, redis]
    exact ⟨trivial, committed, working, rfl, rfl, draws, tasks⟩
  | view => exact ⟨working, committed, working, redis, clock, draws, tasks⟩
  -- what the transaction sees is what it has written over the committed rows
  | write change =>
    have sees := own.sees_append change shared.committed
    simp only [concurrently, handle]
    rw [working] at sees ⊢
    change _ = change server.working at sees
    cases changed : change server.working with
    | ok next =>
      have bound : (Except.ok server.working >>= change) = .ok next := changed
      rw [bound]
      exact ⟨rfl, committed, sees.trans changed, redis, clock, draws, tasks⟩
    | error error =>
      have bound : (Except.ok server.working >>= change) = .error error := changed
      rw [bound]
      exact ⟨rfl, committed, working, redis, clock, draws, tasks⟩
  | commit =>
    simp only [concurrently, handle, working]
    exact ⟨trivial, rfl, rfl, redis, clock, draws, tasks⟩
  | addTask mail =>
    refine ⟨rfl, committed, working, redis, clock, draws, ?_⟩
    simp [concurrently, handle, tasks]

/-- A request that has all turns runs as it does on the server. -/
theorem Alone.run {α : Type} (program : App T α) {own : Transaction T} {shared : Shared T}
    {server : Server T} (alone : Alone own shared server) :
    (program.run concurrently (own, shared)).1 = (program.run handle server).1 ∧
      Alone (program.run concurrently (own, shared)).2.1
        (program.run concurrently (own, shared)).2.2 (program.run handle server).2 := by
  induction program generalizing own shared server with
  | pure value => exact ⟨rfl, alone⟩
  | throw error => exact ⟨rfl, alone⟩
  | perform command next inductionHypothesis =>
    obtain ⟨reply, remains⟩ := alone.command command
    simp only [Program.run]
    rw [reply]
    exact inductionHypothesis _ remains

end

end EnterpriseAuth
