import EnterpriseAuth.Effects.Conduct
import EnterpriseAuth.Effects.Transition
import Mathlib.Logic.Function.Basic

/-!
# Programs that take turns

A `Pool` holds programs that run at the same time against one shared state, each with a state of its
own besides (its transaction, say).  One step is one operation of one thread, and between two steps
the shared state may drift.  Nothing is assumed about the order of the steps.

What a thread may rely on is what all threads guarantee.  A `Discipline` names it: how the shared
state may evolve, and which operations are allowed.  `Discipline.Obeys` is the judgement that a
program keeps to the discipline as long as its surroundings do, with one rule for each way of
composing programs; `Discipline.invariant` is the induction over the runs of a pool whose threads
all obey.
-/

namespace EnterpriseAuth.Effects

/-- An operation that was performed, with its reply and the shared state that it found. -/
structure Performed (Op : Type) (Res : Op → Type) (ε σ : Type) where
  op : Op
  reply : Except ε (Res op)
  found : σ

/-- A running program, with what it alone sees and the operations it has performed, the latest
first. -/
structure Thread (Op : Type) (Res : Op → Type) (ε α ω σ : Type) where
  program : Program Op Res ε α
  own : ω
  log : List (Performed Op Res ε σ)

structure Pool (ι Op : Type) (Res : Op → Type) (ε α ω σ : Type) where
  threads : ι → Thread Op Res ε α ω σ
  shared : σ

variable {ι Op : Type} {Res : Op → Type} {ε α β ω σ : Type}

namespace Thread

/-- The thread after one operation, with the shared state it leaves; an ended thread has none. -/
def advance (handle : Handler Op Res ε (ω × σ)) (thread : Thread Op Res ε α ω σ) (shared : σ) :
    Option (Thread Op Res ε α ω σ × σ) :=
  match thread.program with
  | .pure _ => none
  | .throw _ => none
  | .perform op next =>
    let outcome := handle op (thread.own, shared)
    some (⟨next outcome.1, outcome.2.1, ⟨op, outcome.1, shared⟩ :: thread.log⟩, outcome.2.2)

def Returned (thread : Thread Op Res ε α ω σ) : Prop :=
  ∃ value, thread.program = .pure value

def Running (thread : Thread Op Res ε α ω σ) : Prop :=
  ∃ op next, thread.program = .perform op next

theorem advance_eq_some {handle : Handler Op Res ε (ω × σ)}
    {thread after : Thread Op Res ε α ω σ} {shared left : σ}
    (advanced : thread.advance handle shared = some (after, left)) :
    ∃ op next, thread.program = .perform op next ∧
      after = ⟨next (handle op (thread.own, shared)).1, (handle op (thread.own, shared)).2.1,
        ⟨op, (handle op (thread.own, shared)).1, shared⟩ :: thread.log⟩ ∧
      left = (handle op (thread.own, shared)).2.2 := by
  unfold advance at advanced
  split at advanced
  · cases advanced
  · cases advanced
  next op next programIs =>
    cases advanced
    exact ⟨op, next, programIs, rfl, rfl⟩

/-- Whether the thread has come to a result, for schedules that are played through. -/
def returns (thread : Thread Op Res ε α ω σ) : Bool :=
  match thread.program with
  | .pure _ => true
  | _ => false

theorem returned_of_returns {thread : Thread Op Res ε α ω σ} (returns : thread.returns = true) :
    thread.Returned := by
  obtain ⟨program, own, log⟩ := thread
  cases program with
  | pure value => exact ⟨value, rfl⟩
  | throw => cases returns
  | perform => cases returns

/-- Whether the thread has not begun or has ended. -/
def idle (thread : Thread Op Res ε α ω σ) : Bool :=
  match thread.program with
  | .perform _ _ => thread.log.isEmpty
  | _ => true

end Thread

/-! ## Runs of a pool -/

namespace Pool

/-- At most one thread has come to a result. -/
def AtMostOneReturned (pool : Pool ι Op Res ε α ω σ) : Prop :=
  ∀ i j, (pool.threads i).Returned → (pool.threads j).Returned → i = j

variable [DecidableEq ι]

def act (handle : Handler Op Res ε (ω × σ)) (pool : Pool ι Op Res ε α ω σ) (turn : ι) :
    Option (Pool ι Op Res ε α ω σ) :=
  ((pool.threads turn).advance handle pool.shared).map fun outcome =>
    ⟨Function.update pool.threads turn outcome.1, outcome.2⟩

/-- One operation of one thread, or a change of the shared state from outside. -/
inductive Step (handle : Handler Op Res ε (ω × σ)) (drift : σ → σ → Prop) :
    Pool ι Op Res ε α ω σ → Option ι → Pool ι Op Res ε α ω σ → Prop
  | act {pool after : Pool ι Op Res ε α ω σ} {turn : ι} (acted : pool.act handle turn = some after) :
    Step handle drift pool (some turn) after
  | drift {pool : Pool ι Op Res ε α ω σ} {shared : σ} (drifts : drift pool.shared shared) :
    Step handle drift pool none { pool with shared }

/-- The turns of a schedule, one after the other, as long as each of them is safe. -/
def play (handle : Handler Op Res ε (ω × σ)) (safe : Pool ι Op Res ε α ω σ → ι → Bool) :
    List ι → Pool ι Op Res ε α ω σ → Option (Pool ι Op Res ε α ω σ)
  | [], pool => some pool
  | turn :: turns, pool =>
    if safe pool turn then (pool.act handle turn).bind (play handle safe turns) else none

end Pool

/-- Threads that keep a label beside their own state. -/
def Handler.labelled {κ : Type} (handle : Handler Op Res ε (ω × σ)) :
    Handler Op Res ε ((κ × ω) × σ) :=
  fun op state =>
    let outcome := handle op (state.1.2, state.2)
    (outcome.1, (state.1.1, outcome.2.1), outcome.2.2)

/-- All orders in which the programs may take turns. -/
def interleavings [DecidableEq ι] (handle : Handler Op Res ε (ω × σ)) (drift : σ → σ → Prop)
    (programs : ι → Program Op Res ε α) (own : ι → ω) (start : σ → Prop) :
    System (Pool ι Op Res ε α ω σ) (Option ι) where
  start pool := (∀ i, pool.threads i = ⟨programs i, own i, []⟩) ∧ start pool.shared
  step := Pool.Step handle drift

namespace Pool

variable [DecidableEq ι] {handle : Handler Op Res ε (ω × σ)} {drift : σ → σ → Prop}
  {programs : ι → Program Op Res ε α} {own : ι → ω} {start : σ → Prop}

theorem leads_play {safe : Pool ι Op Res ε α ω σ → ι → Bool}
    {condition : Pool ι Op Res ε α ω σ → Option ι → Prop}
    (meets : ∀ pool turn, safe pool turn = true → condition pool (some turn)) {turns : List ι}
    {pool final : Pool ι Op Res ε α ω σ} (played : pool.play handle safe turns = some final) :
    ((interleavings handle drift programs own start).guarded condition).Leads pool final := by
  induction turns generalizing pool with
  | nil => cases played; exact .refl _
  | cons turn turns inductionHypothesis =>
    rw [play] at played
    split at played
    next isSafe =>
      obtain ⟨middle, acted, rest⟩ := Option.bind_eq_some_iff.mp played
      have step : ((interleavings handle drift programs own start).guarded condition).step pool
          (some turn) middle := ⟨meets pool turn isSafe, .act acted⟩
      exact ((System.Leads.refl pool).tail step).trans (inductionHypothesis rest)
    next => cases played

/-- Where the turns lead, if all of them can be had. -/
def afterTurns (handle : Handler Op Res ε (ω × σ)) (safe : Pool ι Op Res ε α ω σ → ι → Bool)
    (turns : List ι) (pool : Pool ι Op Res ε α ω σ) : Pool ι Op Res ε α ω σ :=
  (pool.play handle safe turns).getD pool

theorem reachable_afterTurns {safe : Pool ι Op Res ε α ω σ → ι → Bool}
    {condition : Pool ι Op Res ε α ω σ → Option ι → Prop} {turns : List ι} {shared : σ}
    (started : start shared) (meets : ∀ pool turn, safe pool turn = true → condition pool (some turn))
    (played : ((⟨fun i => ⟨programs i, own i, []⟩, shared⟩ : Pool ι Op Res ε α ω σ).play handle safe
      turns).isSome) :
    ((interleavings handle drift programs own start).guarded condition).Reachable
      (afterTurns handle safe turns ⟨fun i => ⟨programs i, own i, []⟩, shared⟩) := by
  obtain ⟨final, isFinal⟩ := Option.isSome_iff_exists.mp played
  have reached : (⟨fun i => ⟨programs i, own i, []⟩, shared⟩ : Pool ι Op Res ε α ω σ).play handle safe
      turns = some (afterTurns handle safe turns ⟨fun i => ⟨programs i, own i, []⟩, shared⟩) := by
    rw [afterTurns, isFinal]
    rfl
  exact ⟨_, ⟨fun _ => rfl, started⟩, leads_play meets reached⟩

/-- Any schedule that can be had is a run. -/
theorem reachable_schedule {turns : List ι} {shared : σ} (started : start shared)
    (played : ((⟨fun i => ⟨programs i, own i, []⟩, shared⟩ : Pool ι Op Res ε α ω σ).play handle
      (fun _ _ => true) turns).isSome) :
    (interleavings handle drift programs own start).Reachable
      (afterTurns handle (fun _ _ => true) turns ⟨fun i => ⟨programs i, own i, []⟩, shared⟩) := by
  have reachable : ((interleavings handle drift programs own start).guarded fun _ _ => True).Reachable
      (afterTurns handle (fun _ _ => true) turns ⟨fun i => ⟨programs i, own i, []⟩, shared⟩) :=
    reachable_afterTurns started (fun _ _ _ => trivial) played
  exact reachable.of_guarded

/-- No entry of a log is lost. -/
theorem log_subset_of_step {pool next : Pool ι Op Res ε α ω σ} {turn : Option ι}
    (step : Pool.Step handle drift pool turn next) (i : ι) :
    (pool.threads i).log ⊆ (next.threads i).log := by
  cases step with
  | drift => exact List.Subset.refl _
  | @act _ turn acted =>
    obtain ⟨⟨thread, shared⟩, advanced, rfl⟩ := Option.map_eq_some_iff.mp acted
    obtain ⟨op, rest, -, rfl, -⟩ := Thread.advance_eq_some advanced
    by_cases same : i = turn
    · subst same
      simp
    · simp [same]

theorem log_subset_of_leads {pool later : Pool ι Op Res ε α ω σ}
    (leads : (interleavings handle drift programs own start).Leads pool later) (i : ι) :
    (pool.threads i).log ⊆ (later.threads i).log := by
  apply leads.invariant (fun later => (pool.threads i).log ⊆ (later.threads i).log)
    (List.Subset.refl _)
  intro middle turn next kept step
  exact List.Subset.trans kept (log_subset_of_step step i)

omit [DecidableEq ι] in
theorem not_atMostOneReturned {pool : Pool ι Op Res ε α ω σ} {i j : ι} (different : i ≠ j)
    (first : (pool.threads i).returns = true) (second : (pool.threads j).returns = true) :
    ¬ pool.AtMostOneReturned :=
  fun once => different
    (once i j (Thread.returned_of_returns first) (Thread.returned_of_returns second))

end Pool

/-! ## What threads rely on and guarantee -/

/-- What a thread knows between two of its operations: its own state, its log, and the shared state
that it left or found when it last looked. -/
structure Vantage (Op : Type) (Res : Op → Type) (ε ω σ : Type) where
  own : ω
  log : List (Performed Op Res ε σ)
  since : σ

structure Discipline (Op : Type) (Res : Op → Type) (ε ω σ : Type) where
  handle : Handler Op Res ε (ω × σ)
  /-- how the shared state may change while a thread waits -/
  evolves : σ → σ → Prop
  refl : ∀ shared, evolves shared shared
  trans : ∀ {first second third}, evolves first second → evolves second third → evolves first third
  /-- what the schedule grants when an operation has its turn -/
  granted : List (Performed Op Res ε σ) → Op → σ → Prop
  allowed : ω → List (Performed Op Res ε σ) → Op → σ → Prop

namespace Discipline

variable (discipline : Discipline Op Res ε ω σ)

/-- Where the operation leaves a thread that has its turn at `shared`. -/
def left (vantage : Vantage Op Res ε ω σ) (op : Op) (shared : σ) : Vantage Op Res ε ω σ :=
  let outcome := discipline.handle op (vantage.own, shared)
  ⟨outcome.2.1, ⟨op, outcome.1, shared⟩ :: vantage.log, outcome.2.2⟩

/-- The operation keeps to the discipline. -/
def Permits (vantage : Vantage Op Res ε ω σ) (op : Op) (shared : σ) : Prop :=
  discipline.allowed vantage.own vantage.log op shared ∧
    discipline.evolves shared (discipline.left vantage op shared).since

/-- The rest of a program keeps to the discipline, and ends as wanted. -/
def Amid (after : α → Vantage Op Res ε ω σ → Prop) (raised : ε → Vantage Op Res ε ω σ → Prop) :
    Program Op Res ε α → Vantage Op Res ε ω σ → Prop
  | .pure value, vantage => after value vantage
  | .throw error, vantage => raised error vantage
  | .perform op next, vantage =>
    ∀ shared, discipline.evolves vantage.since shared → discipline.granted vantage.log op shared →
      discipline.Permits vantage op shared ∧
        Amid after raised (next (discipline.handle op (vantage.own, shared)).1)
          (discipline.left vantage op shared)

def Obeys (before : Vantage Op Res ε ω σ → Prop) (program : Program Op Res ε α)
    (after : α → Vantage Op Res ε ω σ → Prop) (raised : ε → Vantage Op Res ε ω σ → Prop) : Prop :=
  ∀ vantage, before vantage → discipline.Amid after raised program vantage

variable {discipline} {before : Vantage Op Res ε ω σ → Prop}
  {after : α → Vantage Op Res ε ω σ → Prop} {raised : ε → Vantage Op Res ε ω σ → Prop}
  {program : Program Op Res ε α}

namespace Obeys

theorem pure {value : α} (holds : ∀ vantage, before vantage → after value vantage) :
    discipline.Obeys before (Pure.pure value) after raised :=
  holds

theorem throw {error : ε} (holds : ∀ vantage, before vantage → raised error vantage) :
    discipline.Obeys before (throw error : Program Op Res ε α) after raised :=
  holds

theorem bind {rest : α → Program Op Res ε β} {final : β → Vantage Op Res ε ω σ → Prop}
    (first : discipline.Obeys before program after raised)
    (second : ∀ value, discipline.Obeys (after value) (rest value) final raised) :
    discipline.Obeys before (program >>= rest) final raised := by
  intro vantage holds
  have amid := first vantage holds
  clear holds first
  change discipline.Amid final raised (program.bind rest) vantage
  induction program generalizing vantage with
  | pure value => exact second value vantage amid
  | throw error => exact amid
  | perform op next inductionHypothesis =>
    intro shared evolves granted
    obtain ⟨permits, rest⟩ := amid shared evolves granted
    exact ⟨permits, inductionHypothesis _ _ rest⟩

theorem tryCatch {recover : ε → Program Op Res ε α}
    {failed : ε → Vantage Op Res ε ω σ → Prop}
    (first : discipline.Obeys before program after failed)
    (second : ∀ error, discipline.Obeys (failed error) (recover error) after raised) :
    discipline.Obeys before (tryCatch program recover) after raised := by
  intro vantage holds
  have amid := first vantage holds
  clear holds first
  change discipline.Amid after raised (program.tryCatch recover) vantage
  induction program generalizing vantage with
  | pure value => exact amid
  | throw error => exact second error vantage amid
  | perform op next inductionHypothesis =>
    intro shared evolves granted
    obtain ⟨permits, rest⟩ := amid shared evolves granted
    exact ⟨permits, inductionHypothesis _ _ rest⟩

theorem weaken {stronger : Vantage Op Res ε ω σ → Prop}
    {after' : α → Vantage Op Res ε ω σ → Prop} {raised' : ε → Vantage Op Res ε ω σ → Prop}
    (obeys : discipline.Obeys before program after raised)
    (enter : ∀ vantage, stronger vantage → before vantage)
    (leave : ∀ value vantage, after value vantage → after' value vantage)
    (fail : ∀ error vantage, raised error vantage → raised' error vantage) :
    discipline.Obeys stronger program after' raised' := by
  intro vantage holds
  have amid := obeys vantage (enter vantage holds)
  clear holds obeys
  induction program generalizing vantage with
  | pure value => exact leave value vantage amid
  | throw error => exact fail error vantage amid
  | perform op next inductionHypothesis =>
    intro shared evolves granted
    obtain ⟨permits, rest⟩ := amid shared evolves granted
    exact ⟨permits, inductionHypothesis _ _ rest⟩

theorem map {transform : α → β} {final : β → Vantage Op Res ε ω σ → Prop}
    (obeys : discipline.Obeys before program (fun value => final (transform value)) raised) :
    discipline.Obeys before (transform <$> program) final raised :=
  obeys.bind fun _ => pure fun _ => id

/-- A fact that is known on entry, whatever the vantage. -/
theorem of_fact {fact : Prop} (obeys : fact → discipline.Obeys before program after raised) :
    discipline.Obeys (fun vantage => fact ∧ before vantage) program after raised :=
  fun vantage entered => obeys entered.1 vantage entered.2

/-- A program that is entered with more knowledge than it needs. -/
theorem enter {stronger : Vantage Op Res ε ω σ → Prop}
    (obeys : discipline.Obeys before program after raised)
    (enter : ∀ vantage, stronger vantage → before vantage) :
    discipline.Obeys stronger program after raised :=
  obeys.weaken enter (fun _ _ => id) fun _ _ => id

theorem ite {condition : Prop} [Decidable condition] {other : Program Op Res ε α}
    (holds : condition → discipline.Obeys before program after raised)
    (fails : ¬ condition → discipline.Obeys before other after raised) :
    discipline.Obeys before (if condition then program else other) after raised := by
  split
  next yes => exact holds yes
  next no => exact fails no

/-- What `call` asks for, of an operation that returns. -/
theorem answered {op : Op} (after : Res op → Vantage Op Res ε ω σ → Prop)
    (raised : ε → Vantage Op Res ε ω σ → Prop)
    {vantage : Vantage Op Res ε ω σ} {shared : σ} {result : Res op}
    (permits : discipline.Permits vantage op shared)
    (replied : (discipline.handle op (vantage.own, shared)).1 = .ok result)
    (holds : after result (discipline.left vantage op shared)) :
    discipline.Permits vantage op shared ∧
      match (discipline.handle op (vantage.own, shared)).1 with
      | .ok result => after result (discipline.left vantage op shared)
      | .error error => raised error (discipline.left vantage op shared) := by
  refine ⟨permits, ?_⟩
  rw [replied]
  exact holds

theorem call {op : Op} {after : Res op → Vantage Op Res ε ω σ → Prop}
    (step : ∀ vantage shared, before vantage → discipline.evolves vantage.since shared →
      discipline.granted vantage.log op shared →
      discipline.Permits vantage op shared ∧
        match (discipline.handle op (vantage.own, shared)).1 with
        | .ok result => after result (discipline.left vantage op shared)
        | .error error => raised error (discipline.left vantage op shared)) :
    discipline.Obeys before (Program.call op) after raised := by
  intro vantage holds shared evolves granted
  obtain ⟨permits, ends⟩ := step vantage shared holds evolves granted
  refine ⟨permits, ?_⟩
  split at ends
  next result replied => rw [replied]; exact ends
  next error replied => rw [replied]; exact ends

/-- What every operation of a class keeps, and what lasts while a thread waits, is kept by the
programs that call nothing else. -/
theorem of_every {stays : Vantage Op Res ε ω σ → Prop} {class' : Op → Prop} {wanted : α → Prop}
    (every : program.Every class' wanted)
    (waits : ∀ vantage shared, stays vantage → discipline.evolves vantage.since shared →
      stays { vantage with since := shared })
    (step : ∀ op vantage, class' op → stays vantage →
      discipline.granted vantage.log op vantage.since →
      discipline.Permits vantage op vantage.since ∧
        stays (discipline.left vantage op vantage.since)) :
    discipline.Obeys stays program (fun value vantage => wanted value ∧ stays vantage)
      fun _ => stays := by
  intro vantage holds
  induction program generalizing vantage with
  | pure value => exact ⟨every, holds⟩
  | throw error => exact holds
  | perform op next inductionHypothesis =>
    intro shared evolves granted
    have here := waits vantage shared holds evolves
    obtain ⟨permits, kept⟩ := step op _ every.1 here granted
    exact ⟨permits, inductionHypothesis _ (every.2 _) _ kept⟩

end Obeys

/-! ## Pools whose threads obey -/

/-- Every thread of the pool is amid a program that obeys. -/
def Orderly (discipline : Discipline Op Res ε ω σ)
    (after : ι → α → Vantage Op Res ε ω σ → Prop) (pool : Pool ι Op Res ε α ω σ) : Prop :=
  ∀ i, ∃ since, discipline.evolves since pool.shared ∧
    discipline.Amid (after i) (fun _ _ => True) (pool.threads i).program
      ⟨(pool.threads i).own, (pool.threads i).log, since⟩

/-- What a returned thread of an orderly pool has come to. -/
theorem Orderly.returned {after : ι → α → Vantage Op Res ε ω σ → Prop}
    {pool : Pool ι Op Res ε α ω σ} (orderly : discipline.Orderly after pool) {i : ι} {value : α}
    (returned : (pool.threads i).program = .pure value) :
    ∃ since, discipline.evolves since pool.shared ∧
      after i value ⟨(pool.threads i).own, (pool.threads i).log, since⟩ := by
  obtain ⟨since, evolves, amid⟩ := orderly i
  rw [returned] at amid
  exact ⟨since, evolves, amid⟩

variable [DecidableEq ι]

/-- A step of an orderly pool. -/
inductive Moves (discipline : Discipline Op Res ε ω σ) (drift : σ → σ → Prop) :
    Pool ι Op Res ε α ω σ → Option ι → Pool ι Op Res ε α ω σ → Prop
  | act {pool : Pool ι Op Res ε α ω σ} {turn : ι} {op : Op}
    {next : Except ε (Res op) → Program Op Res ε α}
    (programIs : (pool.threads turn).program = .perform op next) {vantage : Vantage Op Res ε ω σ}
    (ownIs : vantage.own = (pool.threads turn).own) (logIs : vantage.log = (pool.threads turn).log)
    (permits : discipline.Permits vantage op pool.shared) {thread : Thread Op Res ε α ω σ}
    (left : thread = ⟨next (discipline.handle op (vantage.own, pool.shared)).1,
      (discipline.left vantage op pool.shared).own, (discipline.left vantage op pool.shared).log⟩) :
    Moves discipline drift pool (some turn) ⟨Function.update pool.threads turn thread,
      (discipline.left vantage op pool.shared).since⟩
  | drift {pool : Pool ι Op Res ε α ω σ} {shared : σ} (drifts : drift pool.shared shared)
    (evolves : discipline.evolves pool.shared shared) :
    Moves discipline drift pool none { pool with shared }

variable {drift : σ → σ → Prop}

/-- The shared state moves only as the discipline has it. -/
theorem Moves.evolves {pool next : Pool ι Op Res ε α ω σ} {turn : Option ι}
    (moves : discipline.Moves drift pool turn next) :
    discipline.evolves pool.shared next.shared := by
  cases moves with
  | act _ _ _ permits => exact permits.2
  | drift _ evolves => exact evolves

/-- A step of an orderly pool moves as the discipline has it, and leaves an orderly pool. -/
theorem Orderly.step {after : ι → α → Vantage Op Res ε ω σ → Prop}
    {pool next : Pool ι Op Res ε α ω σ} {turn : Option ι}
    (orderly : discipline.Orderly after pool)
    (drifts : ∀ before after, drift before after → discipline.evolves before after)
    (granted : ∀ i op rest, turn = some i → (pool.threads i).program = .perform op rest →
      discipline.granted (pool.threads i).log op pool.shared)
    (step : Pool.Step discipline.handle drift pool turn next) :
    discipline.Moves drift pool turn next ∧ discipline.Orderly after next := by
  cases step with
  | @drift shared drifted =>
    have evolves := drifts _ _ drifted
    refine ⟨.drift drifted evolves, fun i => ?_⟩
    obtain ⟨since, before, amid⟩ := orderly i
    exact ⟨since, discipline.trans before evolves, amid⟩
  | @act _ turn acted =>
    obtain ⟨⟨thread, shared⟩, advanced, rfl⟩ := Option.map_eq_some_iff.mp acted
    obtain ⟨op, rest, programIs, rfl, rfl⟩ := Thread.advance_eq_some advanced
    obtain ⟨since, before, amid⟩ := orderly turn
    rw [programIs] at amid
    obtain ⟨permits, remaining⟩ := amid pool.shared before (granted turn op rest rfl programIs)
    refine ⟨.act programIs rfl rfl permits rfl, fun i => ?_⟩
    by_cases same : i = turn
    · subst same
      simp only [Function.update_self]
      exact ⟨_, discipline.refl _, remaining⟩
    · obtain ⟨since, before, amid⟩ := orderly i
      simp only [Function.update_of_ne same]
      exact ⟨since, discipline.trans before permits.2, amid⟩

variable {programs : ι → Program Op Res ε α} {own : ι → ω} {start : σ → Prop}
  {condition : Pool ι Op Res ε α ω σ → Option ι → Prop} {pool : Pool ι Op Res ε α ω σ}

/-- The runs from an orderly pool, where the schedule grants everything. -/
theorem Orderly.leads {after : ι → α → Vantage Op Res ε ω σ → Prop} {later : Pool ι Op Res ε α ω σ}
    (orderly : discipline.Orderly after pool)
    (leads : (interleavings discipline.handle drift programs own start).Leads pool later)
    (drifts : ∀ before after, drift before after → discipline.evolves before after)
    (granted : ∀ log op shared, discipline.granted log op shared) :
    discipline.evolves pool.shared later.shared ∧ discipline.Orderly after later := by
  apply leads.invariant (fun later => discipline.evolves pool.shared later.shared ∧
    discipline.Orderly after later) ⟨discipline.refl _, orderly⟩
  intro middle turn next holds step
  obtain ⟨moves, orderlyNext⟩ := holds.2.step drifts (fun _ _ _ _ _ => granted _ _ _) step
  exact ⟨discipline.trans holds.1 moves.evolves, orderlyNext⟩

/-- The induction over the runs of a pool whose programs obey. -/
theorem invariant (holds : Pool ι Op Res ε α ω σ → Prop)
    {after : ι → α → Vantage Op Res ε ω σ → Prop}
    (reachable : ((interleavings discipline.handle drift programs own start).guarded
      condition).Reachable pool)
    (obeys : ∀ i, discipline.Obeys (fun vantage => vantage.own = own i ∧ vantage.log = [] ∧
      start vantage.since) (programs i) (after i) fun _ _ => True)
    (drifts : ∀ before after, drift before after → discipline.evolves before after)
    (granted : ∀ pool i op rest, condition pool (some i) →
      (pool.threads i).program = .perform op rest →
      discipline.granted (pool.threads i).log op pool.shared)
    (starts : ∀ shared, start shared → holds ⟨fun i => ⟨programs i, own i, []⟩, shared⟩)
    (keeps : ∀ pool turn next, condition pool turn → discipline.Orderly after pool → holds pool →
      discipline.Moves drift pool turn next → holds next) :
    holds pool ∧ discipline.Orderly after pool := by
  refine System.Reachable.invariant (fun pool => holds pool ∧ discipline.Orderly after pool)
    reachable ?_ ?_
  · rintro ⟨threads, shared⟩ ⟨fresh, started⟩
    obtain rfl : threads = fun i => ⟨programs i, own i, []⟩ := funext fresh
    exact ⟨starts shared started, fun i =>
      ⟨shared, discipline.refl shared, obeys i _ ⟨rfl, rfl, started⟩⟩⟩
  · rintro pool turn next - ⟨held, orderly⟩ ⟨meets, step⟩
    obtain ⟨moves, orderlyNext⟩ := orderly.step drifts
      (fun i op rest turnIs programIs => granted pool i op rest (turnIs ▸ meets) programIs) step
    exact ⟨keeps pool turn next meets orderly held moves, orderlyNext⟩

end Discipline

end EnterpriseAuth.Effects
