import EnterpriseAuth.Api.Concurrency
import EnterpriseAuth.Effects.OneTime
import EnterpriseAuth.Requests.Calls
import EnterpriseAuth.Requests.Statements

/-!
# Credentials that are rows of the database

A token sent by mail and a recovery code are rows that a request finds unused, marks as used and
commits at its end.  From the look to the commit the request is in its window.  What such requests
have in common is said here for any notion of which rows are `usable`: the commands around the look
and the mark make no row usable, and the commit makes the marked row unusable.
-/

namespace EnterpriseAuth

open Effects Program

variable {T κ : Type} {usable : Database T → κ → Prop}

/-! ## Statements -/

/-- A statement of the repositories that makes no row usable. -/
class Consuming (usable : Database T → κ → Prop)
    (change : Database T → Except AppError (Database T)) : Prop where
  statement : Database.Statement change := by infer_instance
  wasUsable : ∀ before after, change before = .ok after → ∀ row, usable after row → usable before row

/-- The statement leaves the row unusable. -/
def MarksUsed (usable : Database T → κ → Prop) (row : κ)
    (change : Database T → Except AppError (Database T)) : Prop :=
  ∀ before after, change before = .ok after → ¬ usable after row

/-- The command commits nothing and makes no row usable. -/
def Command.Sparing (usable : Database T → κ → Prop) : Command T → Prop
  | .commit => False
  | .write change => Consuming usable change
  | .now | .draw | .redis _ | .view | .addTask _ => True

/-- No statement of the transaction makes a row usable. -/
def Transaction.Harmless (usable : Database T → κ → Prop) (own : Transaction T) : Prop :=
  ∀ change ∈ own.statements, Consuming usable change

theorem Transaction.Harmless.wasUsable {own : Transaction T} (harmless : own.Harmless usable)
    {committed db : Database T} (shows : own.sees committed = .ok db) {row : κ}
    (isUsable : usable db row) : usable committed row :=
  Transaction.sees_relation (fun before after => ∀ row, usable after row → usable before row)
    (fun _ _ => id) (fun _ _ _ first second row later => first row (second row later))
    (fun change member => (harmless change member).wasUsable) shows row isUsable

/-- A transaction that the database refuses was executed. -/
theorem Transaction.Harmless.error {own : Transaction T} (harmless : own.Harmless usable)
    {committed : Database T} {error : AppError} (refused : own.sees committed = .error error) :
    error ≠ .operational :=
  own.sees_error (fun change member _ _ =>
    Database.statement_error (harmless change member).statement) refused

/-- A row that one of the statements marks as used is not usable when all have been made. -/
theorem Transaction.Harmless.not_usable {own : Transaction T} (harmless : own.Harmless usable)
    {row : κ} {change : Database T → Except AppError (Database T)}
    (member : change ∈ own.statements) (marks : MarksUsed usable row change)
    {committed db : Database T} (shows : own.sees committed = .ok db) : ¬ usable db row := by
  obtain ⟨statements, tasks⟩ := own
  induction statements generalizing committed with
  | nil => cases member
  | cons first statements inductionHypothesis =>
    simp only [sees, List.foldlM_cons] at shows inductionHypothesis
    cases changed : first committed with
    | error error => rw [changed] at shows; cases shows
    | ok middle =>
      rw [changed] at shows
      have rest : (⟨statements, tasks⟩ : Transaction T).Harmless usable :=
        fun other member => harmless other (.tail _ member)
      rcases List.mem_cons.mp member with rfl | later
      · exact fun isUsable => marks _ _ changed (rest.wasUsable shows isUsable)
      · exact inductionHypothesis rest later shows

section
variable [CommRing T] [LinearOrder T]

/-! ## The window of a request -/

/-- A credential whose rows are looked at, marked and committed, with what has to have happened
before the look that counts. -/
def rowOnce (usable : Database T → κ → Prop)
    (ready : List (Performed (Command T) Command.Res AppError (Shared T)) → Prop) :
    OneTime (Command T) Command.Res AppError (Transaction T) (Shared T) where
  handle := concurrently
  moves before after := ∀ row, usable after.committed row → usable before.committed row
  refl _ _ := id
  trans first second row isUsable := first row (second row isUsable)
  spent shared := ∀ row, ¬ usable shared.committed row
  checks log op := op = .view ∧ ready log
  passes entry := ∃ row, usable entry.found.committed row
  marks entry := entry.op = .commit ∧ entry.reply.isOk

abbrev RowVantage (T : Type) := Vantage (Command T) Command.Res AppError (Transaction T) (Shared T)

variable {ready : List (Performed (Command T) Command.Res AppError (Shared T)) → Prop}

/-- What outlasts the other requests and the sparing commands of this one. -/
structure Lasting (usable : Database T → κ → Prop) (stays : RowVantage T → Prop) : Prop where
  waits : ∀ own log since shared, stays ⟨own, log, since⟩ →
    (∀ row, usable shared.committed row → usable since.committed row) → stays ⟨own, log, shared⟩
  logs : ∀ own log since entry, stays ⟨own, log, since⟩ → stays ⟨own, entry :: log, since⟩
  writes : ∀ own log since change, Consuming usable change → stays ⟨own, log, since⟩ →
    stays ⟨{ own with statements := own.statements ++ [change] }, log, since⟩
  mails : ∀ own log since mail, stays ⟨own, log, since⟩ →
    stays ⟨{ own with tasks := own.tasks ++ [mail] }, log, since⟩

/-- A sparing command leaves what is committed alone, and keeps what lasts. -/
theorem Lasting.command {stays : RowVantage T → Prop} (lasting : Lasting usable stays)
    {command : Command T} (sparing : command.Sparing usable) (vantage : RowVantage T)
    (holds : stays vantage) :
    (rowOnce usable ready).discipline.Permits vantage command vantage.since ∧
      stays ((rowOnce usable ready).discipline.left vantage command vantage.since) := by
  obtain ⟨own, log, since⟩ := vantage
  have notCommit : command ≠ .commit := by
    rintro rfl
    exact sparing
  have committed := committed_concurrently notCommit own since
  refine ⟨⟨⟨fun _ passes spent => spent _ passes.choose_spec, fun marks => ?_⟩, ?_, ?_⟩, ?_⟩
  · exact absurd marks.1 notCommit
  · intro row isUsable
    exact committed ▸ isUsable
  · intro spent row isUsable
    exact spent row (committed ▸ isUsable)
  · have logged := lasting.logs own log since
      ⟨command, (concurrently command (own, since)).1, since⟩ holds
    cases command with
    | commit => exact sparing.elim
    | now | draw | redis | view => exact lasting.waits _ _ _ _ logged fun _ => id
    | addTask mail => exact lasting.mails _ _ _ mail logged
    | write change =>
      have written := lasting.writes _ _ _ change sparing logged
      simp only [OneTime.discipline, rowOnce, Discipline.left, concurrently] at logged written ⊢
      cases changed : own.sees since.committed >>= change with
      | ok => simpa [changed] using written
      | error => simpa [changed] using logged

theorem Lasting.obeys {stays : RowVantage T → Prop} (lasting : Lasting usable stays) {α : Type}
    {program : App T α} {wanted : α → Prop} (every : program.Every (Command.Sparing usable) wanted) :
    (rowOnce usable ready).discipline.Obeys stays program
      (fun value vantage => wanted value ∧ stays vantage) fun _ _ => True := by
  refine (Discipline.Obeys.of_every every ?_ ?_).weaken (fun _ => id) (fun _ _ => id)
    fun _ _ _ => trivial
  · intro vantage shared holds evolves
    exact lasting.waits _ _ _ _ holds evolves.1
  · intro command vantage sparing holds _
    exact lasting.command sparing vantage holds

theorem Lasting.obeys_calls {stays : RowVantage T → Prop} (lasting : Lasting usable stays) {α : Type}
    (program : App T α) [calls : Calls (Command.Sparing usable) program] :
    (rowOnce usable ready).discipline.Obeys stays program (fun _ => stays) fun _ _ => True :=
  (lasting.obeys calls.every).weaken (fun _ => id) (fun _ _ => And.right) fun _ _ _ => trivial

/-! ## From the look to the commit -/

/-- The request has made no row usable, and the credential is good for one row at most. -/
structure Unlooked (usable : Database T → κ → Prop) (vantage : RowVantage T) : Prop where
  harmless : vantage.own.Harmless usable
  one : ∀ row other, usable vantage.since.committed row → usable vantage.since.committed other →
    row = other

/-- The request has seen the row usable. -/
structure Looked (usable : Database T → κ → Prop)
    (ready : List (Performed (Command T) Command.Res AppError (Shared T)) → Prop) (row : κ)
    (vantage : RowVantage T) : Prop where
  harmless : vantage.own.Harmless usable
  passed : (rowOnce usable ready).Passed vantage.log
  only : ∀ other, usable vantage.since.committed other → other = row

/-- The request has marked the row as used. -/
structure RowConsumed (usable : Database T → κ → Prop)
    (ready : List (Performed (Command T) Command.Res AppError (Shared T)) → Prop) (row : κ)
    (vantage : RowVantage T) : Prop extends Looked usable ready row vantage where
  marked : ∃ change ∈ vantage.own.statements, MarksUsed usable row change

omit [CommRing T] [LinearOrder T] in
theorem Transaction.Harmless.append {own : Transaction T} (harmless : own.Harmless usable)
    {change : Database T → Except AppError (Database T)} (consuming : Consuming usable change) :
    ({ own with statements := own.statements ++ [change] } : Transaction T).Harmless usable := by
  intro other member
  rcases List.mem_append.mp member with old | new
  · exact harmless other old
  · rwa [List.mem_singleton.mp new]

omit [CommRing T] [LinearOrder T] in
theorem lasting_trivial : Lasting usable fun _ => True :=
  ⟨fun _ _ _ _ _ _ => trivial, fun _ _ _ _ _ => trivial, fun _ _ _ _ _ _ => trivial,
    fun _ _ _ _ _ => trivial⟩

omit [CommRing T] [LinearOrder T] in
theorem lasting_unlooked : Lasting usable (Unlooked usable) where
  waits _ _ _ _ unlooked moves := ⟨unlooked.harmless, fun row other isUsable otherUsable =>
    unlooked.one row other (moves row isUsable) (moves other otherUsable)⟩
  logs _ _ _ _ unlooked := ⟨unlooked.harmless, unlooked.one⟩
  writes _ _ _ _ consuming unlooked := ⟨unlooked.harmless.append consuming, unlooked.one⟩
  mails _ _ _ _ unlooked := ⟨unlooked.harmless, unlooked.one⟩

theorem lasting_looked {row : κ} : Lasting usable (Looked usable ready row) where
  waits _ _ _ _ looked moves := ⟨looked.harmless, looked.passed,
    fun other isUsable => looked.only other (moves other isUsable)⟩
  logs _ _ _ entry looked := ⟨looked.harmless, looked.passed.cons entry, looked.only⟩
  writes _ _ _ _ consuming looked := ⟨looked.harmless.append consuming, looked.passed, looked.only⟩
  mails _ _ _ _ looked := ⟨looked.harmless, looked.passed, looked.only⟩

theorem lasting_consumed {row : κ} : Lasting usable (RowConsumed usable ready row) where
  waits own log since shared consumed moves :=
    ⟨lasting_looked.waits own log since shared consumed.toLooked moves, consumed.marked⟩
  logs own log since entry consumed :=
    ⟨lasting_looked.logs own log since entry consumed.toLooked, consumed.marked⟩
  writes own log since change consuming consumed := by
    refine ⟨lasting_looked.writes own log since change consuming consumed.toLooked, ?_⟩
    obtain ⟨marking, member, marks⟩ := consumed.marked
    exact ⟨marking, List.mem_append_left _ member, marks⟩
  mails own log since mail consumed :=
    ⟨lasting_looked.mails own log since mail consumed.toLooked, consumed.marked⟩

/-- The look that counts. -/
theorem obeys_look :
    (rowOnce usable ready).discipline.Obeys (fun vantage => Unlooked usable vantage ∧ ready vantage.log)
      (view : App T (Database T))
      (fun db vantage => ∀ row, usable db row → Looked usable ready row vantage) fun _ _ => True := by
  refine .call fun vantage shared entered evolves _ => ?_
  have unlooked := lasting_unlooked.waits _ _ _ _ entered.1 evolves.1
  have sparing : (Command.view : Command T).Sparing usable := trivial
  have permits : (rowOnce usable ready).discipline.Permits ⟨vantage.own, vantage.log, shared⟩ .view
      shared := (lasting_unlooked.command sparing _ unlooked).1
  refine ⟨permits, ?_⟩
  split
  next db replied =>
    intro row isUsable
    have shows : vantage.own.sees shared.committed = .ok db := replied
    have wasUsable := unlooked.harmless.wasUsable shows isUsable
    exact ⟨unlooked.harmless, .inr ⟨⟨rfl, entered.2⟩, row, wasUsable⟩,
      fun other otherUsable => unlooked.one other row otherUsable wasUsable⟩
  next => trivial

theorem obeys_mark {row : κ} (change : Database T → Except AppError (Database T))
    [consuming : Consuming usable change] (marks : MarksUsed usable row change) :
    (rowOnce usable ready).discipline.Obeys (Looked usable ready row) (write change : App T Unit)
      (fun _ => RowConsumed usable ready row) fun _ _ => True := by
  refine .call fun vantage shared looked evolves _ => ?_
  have here := lasting_looked.waits _ _ _ _ looked evolves.1
  have sparing : (Command.write change).Sparing usable := consuming
  have permitted : (rowOnce usable ready).discipline.Permits ⟨vantage.own, vantage.log, shared⟩
      (.write change) shared ∧ Looked usable ready row
        ((rowOnce usable ready).discipline.left ⟨vantage.own, vantage.log, shared⟩ (.write change)
          shared) := lasting_looked.command sparing _ here
  obtain ⟨permits, stays⟩ := permitted
  refine ⟨permits, ?_⟩
  split
  next replied =>
    refine ⟨stays, change, ?_, marks⟩
    cases changed : vantage.own.sees shared.committed >>= change with
    | ok => simp [OneTime.discipline, rowOnce, Discipline.left, concurrently, changed]
    | error error => simp [OneTime.discipline, rowOnce, concurrently, changed] at replied
  next => trivial

/-- A request that commits has marked the row, and leaves no row usable. -/
theorem obeys_commit {row : κ} :
    (rowOnce usable ready).discipline.Obeys (RowConsumed usable ready row) (commit : App T Unit)
      (fun _ vantage => (rowOnce usable ready).Marked vantage.log)
      fun error _ => error ≠ .operational := by
  refine .call fun vantage shared consumed evolves _ => ?_
  have here := lasting_consumed.waits _ _ _ _ consumed evolves.1
  obtain ⟨change, member, marks⟩ := here.marked
  cases shows : vantage.own.sees shared.committed with
  | ok db =>
    have outcome : concurrently .commit (vantage.own, shared) =
        (.ok (), { vantage.own with statements := [] }, { shared with committed := db }) := by
      simp only [concurrently, shows]
    have unusable (other : κ) : ¬ usable db other := by
      intro isUsable
      have isRow := here.only other (here.harmless.wasUsable shows isUsable)
      exact here.harmless.not_usable member marks shows (isRow ▸ isUsable)
    simp only [Discipline.Permits, Discipline.left, OneTime.discipline, rowOnce, outcome]
    exact ⟨⟨⟨fun checks => by simp at checks, fun _ => ⟨here.passed, unusable⟩⟩,
      fun other isUsable => absurd isUsable (unusable other), fun _ => unusable⟩,
      OneTime.marked_cons.mpr (.inl ⟨rfl, rfl⟩)⟩
  | error error =>
    have outcome : concurrently .commit (vantage.own, shared) =
        (.error error, { vantage.own with statements := [] }, shared) := by
      simp only [concurrently, shows]
    simp only [Discipline.Permits, Discipline.left, OneTime.discipline, rowOnce, outcome]
    exact ⟨⟨⟨fun checks => by simp at checks, fun marks => by cases marks.2⟩,
      fun _ => id, id⟩, here.harmless.error shows⟩

theorem obeys_getDb {α : Type} {program : App T α} {before : RowVantage T → Prop}
    (obeys : (rowOnce usable ready).discipline.Obeys before program
      (fun _ vantage => ∃ row, RowConsumed usable ready row vantage) fun _ _ => True) :
    (rowOnce usable ready).discipline.Obeys before (getDb program)
      (fun _ vantage => (rowOnce usable ready).Marked vantage.log) fun _ _ => True := by
  have committed : (rowOnce usable ready).discipline.Obeys
      (fun vantage => ∃ row, RowConsumed usable ready row vantage) (commit : App T Unit)
      (fun _ vantage => (rowOnce usable ready).Marked vantage.log)
      fun error _ => error ≠ .operational :=
    fun vantage ⟨_, consumed⟩ => obeys_commit vantage consumed
  exact obeys.bind fun value => (obeys_commitAfterResponse committed).bind fun _ =>
    .pure fun _ => id

end

end EnterpriseAuth
