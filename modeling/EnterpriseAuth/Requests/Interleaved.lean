import EnterpriseAuth.Api.Concurrency
import EnterpriseAuth.Requests.Frames

/-!
# What requests commit that run at the same time

A request changes what is committed by its commits alone, and a commit makes the statements of the
transaction once more, on what is committed by then.  So where each statement keeps to a `Frame`
whatever database it is made on, a whole run does, however the requests take turns.
-/

namespace EnterpriseAuth

open Effects Program

variable {T ι : Type} {frame : Frame T}

/-! ## Requests of any kind -/

/-- What a request has called, the latest first. -/
abbrev RequestLog (T : Type) := List (Performed (Command T) Command.Res AppError (Shared T))

abbrev RequestVantage (T : Type) :=
  Vantage (Command T) Command.Res AppError (Arrival × Transaction T) (Shared T)

abbrev RequestPool (ι T : Type) :=
  Pool ι (Command T) Command.Res AppError (Reply T) (Arrival × Transaction T) (Shared T)

/-- The requests in all orders in which they may take turns, while the shared state drifts. -/
def requests [CommRing T] [LinearOrder T] [FloorRing T] [DecidableEq ι] (env : Environment T)
    (drift : Shared T → Shared T → Prop) (start : Shared T → Prop) (arrivals : ι → Arrival) :
    System (RequestPool ι T) (Option ι) :=
  interleavings (Handler.labelled concurrently) drift (fun i => serve env (arrivals i))
    (fun i => (arrivals i, {})) start

/-! ## Statements inside a frame -/

def Frame.Bounds (frame : Frame T) (change : Database T → Except AppError (Database T)) : Prop :=
  ∀ before after, change before = .ok after → frame.holds before after

/-- All statements of the transaction keep to the frame. -/
def Transaction.Inside (frame : Frame T) (own : Transaction T) : Prop :=
  ∀ change ∈ own.statements, frame.Bounds change

/-- The statements that the command adds to the transaction keep to the frame. -/
def Command.Bounded (frame : Frame T) : Command T → Prop
  | .write change => frame.Bounds change
  | _ => True

theorem Transaction.Inside.sees {own : Transaction T} (inside : own.Inside frame)
    {committed db : Database T} (shows : own.sees committed = .ok db) : frame.holds committed db :=
  Transaction.sees_relation frame.holds frame.refl (fun _ _ _ => frame.trans) inside shows

theorem inside_append {own : Transaction T} (inside : own.Inside frame)
    {change : Database T → Except AppError (Database T)} (bounds : frame.Bounds change) :
    ({ own with statements := own.statements ++ [change] } : Transaction T).Inside frame := by
  intro other member
  simp only [List.mem_append, List.mem_singleton] at member
  cases member with
  | inl old => exact inside other old
  | inr new => rwa [new]

section
variable [CommRing T] [LinearOrder T]

theorem inside_concurrently {own : Transaction T} (inside : own.Inside frame) {command : Command T}
    (bounded : command.Bounded frame) (shared : Shared T) :
    (concurrently command (own, shared)).2.1.Inside frame := by
  cases command with
  | write change =>
    simp only [concurrently]
    split
    · exact inside_append inside bounded
    · exact inside
  | commit =>
    -- nothing is left to be made again
    simp only [concurrently]
    split <;> simp [Transaction.Inside]
  | now | draw | redis | view | addTask => exact inside

theorem frame_concurrently {own : Transaction T} (inside : own.Inside frame) (command : Command T)
    (shared : Shared T) :
    frame.holds shared.committed (concurrently command (own, shared)).2.2.committed := by
  cases command with
  | commit =>
    simp only [concurrently]
    split
    next db shows => exact inside.sees shows
    next => exact frame.refl _
  | write change =>
    rw [committed_concurrently (by simp)]
    exact frame.refl _
  | now | draw | redis | view | addTask => exact frame.refl _

/-- Requests whose transactions keep to the frame, and that call what is allowed. -/
def Frame.discipline (frame : Frame T)
    (allowed : Arrival → Transaction T → RequestLog T → Command T → Shared T → Prop) :
    Discipline (Command T) Command.Res AppError (Arrival × Transaction T) (Shared T) where
  handle := Handler.labelled concurrently
  evolves before after := frame.holds before.committed after.committed
  refl shared := frame.refl shared.committed
  trans := frame.trans
  granted _ _ _ := True
  allowed own log command shared := own.2.Inside frame ∧ allowed own.1 own.2 log command shared

variable {allowed : Arrival → Transaction T → RequestLog T → Command T → Shared T → Prop}

theorem permits_of_inside {vantage : RequestVantage T} {command : Command T} {shared : Shared T}
    (inside : vantage.own.2.Inside frame)
    (isAllowed : allowed vantage.own.1 vantage.own.2 vantage.log command shared) :
    (frame.discipline allowed).Permits vantage command shared :=
  ⟨⟨inside, isAllowed⟩, frame_concurrently inside command shared⟩

end

end EnterpriseAuth
