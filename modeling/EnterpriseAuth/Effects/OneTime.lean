import EnterpriseAuth.Effects.Interleaving

/-!
# Values that are checked and then marked

Programs that share a value good for one use look whether it has been used (`checks`, `passes`) and
mark it as used later (`marks`).  Between the two lies a window in which a second program may look.
`OneTime.at_most_once` says that nothing else can go wrong: in the runs in which no program looks
while another one is in its window, at most one program comes to its mark.
-/

namespace EnterpriseAuth.Effects

structure OneTime (Op : Type) (Res : Op → Type) (ε ω σ : Type) where
  handle : Handler Op Res ε (ω × σ)
  /-- how the shared state may change, apart from the value -/
  moves : σ → σ → Prop
  refl : ∀ shared, moves shared shared
  trans : ∀ {first second third}, moves first second → moves second third → moves first third
  spent : σ → Prop
  /-- after these operations, this one looks whether the value has been used -/
  checks : List (Performed Op Res ε σ) → Op → Prop
  /-- the look shows the value as unused -/
  passes : Performed Op Res ε σ → Prop
  marks : Performed Op Res ε σ → Prop
  /-- what is asked of the instant of a look -/
  timely : σ → Prop := fun _ => True

namespace OneTime

variable {ι Op : Type} {Res : Op → Type} {ε α ω σ : Type} (oneTime : OneTime Op Res ε ω σ)

def Passed : List (Performed Op Res ε σ) → Prop
  | [] => False
  | entry :: log => Passed log ∨ (oneTime.checks log entry.op ∧ oneTime.passes entry)

def Marked (log : List (Performed Op Res ε σ)) : Prop :=
  ∃ entry ∈ log, oneTime.marks entry

/-- The thread has seen the value unused and not marked it yet. -/
structure InWindow (thread : Thread Op Res ε α ω σ) : Prop where
  running : thread.Running
  passed : oneTime.Passed thread.log
  unmarked : ¬ oneTime.Marked thread.log

/-- No thread looks while another one is in its window. -/
def OneAtATime (pool : Pool ι Op Res ε α ω σ) : Option ι → Prop
  | none => True
  | some turn => ∀ op next, (pool.threads turn).program = .perform op next →
      oneTime.checks (pool.threads turn).log op →
      oneTime.timely pool.shared ∧ ∀ other, other ≠ turn → ¬ oneTime.InWindow (pool.threads other)

/-- Spent values stay spent, only unspent ones pass, and only a thread that has seen the value
unspent marks it. -/
def discipline : Discipline Op Res ε ω σ where
  handle := oneTime.handle
  evolves before after := oneTime.moves before after ∧ (oneTime.spent before → oneTime.spent after)
  refl shared := ⟨oneTime.refl shared, id⟩
  trans first second := ⟨oneTime.trans first.1 second.1, second.2 ∘ first.2⟩
  granted log op shared := oneTime.checks log op → oneTime.timely shared
  allowed own log op shared :=
    let outcome := oneTime.handle op (own, shared)
    (oneTime.checks log op → oneTime.passes ⟨op, outcome.1, shared⟩ → ¬ oneTime.spent shared) ∧
      (oneTime.marks ⟨op, outcome.1, shared⟩ → oneTime.Passed log ∧ oneTime.spent outcome.2.2)

variable {oneTime}

theorem Passed.cons {log : List (Performed Op Res ε σ)} (passed : oneTime.Passed log)
    (entry : Performed Op Res ε σ) : oneTime.Passed (entry :: log) :=
  .inl passed

theorem marked_cons {log : List (Performed Op Res ε σ)} {entry : Performed Op Res ε σ} :
    oneTime.Marked (entry :: log) ↔ oneTime.marks entry ∨ oneTime.Marked log := by
  simp [Marked]

theorem not_marked_nil : ¬ oneTime.Marked [] := by
  simp [Marked]

theorem not_inWindow_of_idle {thread : Thread Op Res ε α ω σ} (idle : thread.idle = true) :
    ¬ oneTime.InWindow thread := by
  rintro ⟨⟨op, next, programIs⟩, passed, -⟩
  rw [Thread.idle, programIs] at idle
  obtain ⟨program, own, log⟩ := thread
  cases log with
  | nil => exact passed
  | cons => cases idle

/-- Of two threads, one may look while the other has not begun or has ended. -/
theorem oneAtATime_of_idle {pool : Pool Bool Op Res ε α ω σ} {turn : Bool}
    (idle : (pool.threads !turn).idle = true) (timely : oneTime.timely pool.shared) :
    oneTime.OneAtATime pool (some turn) := by
  intro op next _ _
  refine ⟨timely, fun other different => ?_⟩
  rw [Bool.eq_not.mpr different]
  exact not_inWindow_of_idle idle

/-- A marked value is spent, and neither two threads nor a window beside it come to a mark. -/
structure Exclusive (oneTime : OneTime Op Res ε ω σ) (pool : Pool ι Op Res ε α ω σ) : Prop where
  spent : ∀ i, oneTime.Marked (pool.threads i).log → oneTime.spent pool.shared
  oneMarked : ∀ i j, oneTime.Marked (pool.threads i).log → oneTime.Marked (pool.threads j).log → i = j
  oneWindow : ∀ i j, oneTime.InWindow (pool.threads i) → oneTime.InWindow (pool.threads j) → i = j
  closed : ∀ i j, oneTime.Marked (pool.threads i).log → ¬ oneTime.InWindow (pool.threads j)

theorem Exclusive.fresh {programs : ι → Program Op Res ε α} {own : ι → ω} (shared : σ) :
    oneTime.Exclusive ⟨fun i => ⟨programs i, own i, []⟩, shared⟩ where
  spent _ marked := absurd marked not_marked_nil
  oneMarked _ _ marked := absurd marked not_marked_nil
  oneWindow _ _ window := window.passed.elim
  closed _ _ marked := absurd marked not_marked_nil

variable [DecidableEq ι] {pool next : Pool ι Op Res ε α ω σ}

theorem Exclusive.step {drift : σ → σ → Prop} {turn : Option ι} (exclusive : oneTime.Exclusive pool)
    (oneAtATime : oneTime.OneAtATime pool turn)
    (moves : oneTime.discipline.Moves drift pool turn next) : oneTime.Exclusive next := by
  have stays := moves.evolves.2
  cases moves with
  | drift => exact ⟨fun i marked => stays (exclusive.spent i marked), exclusive.oneMarked,
      exclusive.oneWindow, exclusive.closed⟩
  | @act turn op rest programIs vantage ownIs logIs permits thread left =>
    obtain ⟨⟨unspent, marking⟩, -⟩ := permits
    rw [logIs] at unspent marking
    have running : (pool.threads turn).Running := ⟨op, rest, programIs⟩
    have looks := oneAtATime op rest programIs
    generalize entryIs : (⟨op, (oneTime.handle op (vantage.own, pool.shared)).1, pool.shared⟩ :
      Performed Op Res ε σ) = entry at unspent marking
    have opIs : entry.op = op := by rw [← entryIs]
    have log : thread.log = entry :: (pool.threads turn).log := by
      rw [left, ← entryIs, ← logIs]
      rfl
    -- what the step makes of the marks and of the windows
    have marked (i : ι) (holds : oneTime.Marked (Function.update pool.threads turn thread i).log) :
        oneTime.Marked (pool.threads i).log ∨ (i = turn ∧ oneTime.marks entry) := by
      by_cases same : i = turn
      · subst same
        rw [Function.update_self, log, marked_cons] at holds
        exact holds.symm.imp_right fun marks => ⟨rfl, marks⟩
      · rw [Function.update_of_ne same] at holds
        exact .inl holds
    have inWindow (i : ι) (window : oneTime.InWindow (Function.update pool.threads turn thread i)) :
        (i = turn → ¬ oneTime.marks entry) ∧ (oneTime.InWindow (pool.threads i) ∨
          (i = turn ∧ oneTime.checks (pool.threads turn).log op ∧ oneTime.passes entry)) := by
      by_cases same : i = turn
      · subst same
        obtain ⟨-, passed, unmarked⟩ := window
        rw [Function.update_self, log] at passed unmarked
        rw [marked_cons, not_or] at unmarked
        refine ⟨fun _ => unmarked.1, ?_⟩
        rcases passed with before | ⟨checks, passes⟩
        · exact .inl ⟨running, before, unmarked.2⟩
        · exact .inr ⟨rfl, opIs ▸ checks, passes⟩
      · rw [Function.update_of_ne same] at window
        exact ⟨fun equal => absurd equal same, .inl window⟩
    -- a thread that marks for the first time was in its window
    have wasInWindow (marks : oneTime.marks entry) :
        oneTime.Marked (pool.threads turn).log ∨ oneTime.InWindow (pool.threads turn) := by
      by_cases before : oneTime.Marked (pool.threads turn).log
      · exact .inl before
      · exact .inr ⟨running, (marking marks).1, before⟩
    -- a look that passes finds no mark
    have noMark (checks : oneTime.checks (pool.threads turn).log op) (passes : oneTime.passes entry)
        (i : ι) : ¬ oneTime.Marked (pool.threads i).log :=
      fun holds => unspent checks passes (exclusive.spent i holds)
    refine ⟨fun i holds => ?_, fun i j first second => ?_, fun i j first second => ?_,
      fun i j holds window => ?_⟩
    · rcases marked i holds with before | ⟨-, marks⟩
      · exact stays (exclusive.spent i before)
      · exact (marking marks).2
    · rcases marked i first with beforeFirst | ⟨rfl, marks⟩ <;>
        rcases marked j second with beforeSecond | ⟨rfl, marks'⟩
      · exact exclusive.oneMarked i j beforeFirst beforeSecond
      · rcases wasInWindow marks' with before | window
        · exact exclusive.oneMarked i j beforeFirst before
        · exact absurd window (exclusive.closed i j beforeFirst)
      · rcases wasInWindow marks with before | window
        · exact exclusive.oneMarked i j before beforeSecond
        · exact absurd window (exclusive.closed j i beforeSecond)
      · rfl
    · rcases (inWindow i first).2 with windowFirst | ⟨rfl, checks, -⟩ <;>
        rcases (inWindow j second).2 with windowSecond | ⟨rfl, checks', -⟩
      · exact exclusive.oneWindow i j windowFirst windowSecond
      · by_contra different
        exact (looks checks').2 i different windowFirst
      · by_contra different
        exact (looks checks).2 j (Ne.symm different) windowSecond
      · rfl
    · obtain ⟨noMarks, before | ⟨rfl, checks, passes⟩⟩ := inWindow j window
      · rcases marked i holds with wasMarked | ⟨rfl, marks⟩
        · exact exclusive.closed i j wasMarked before
        · rcases wasInWindow marks with wasMarked | windowOfTurn
          · exact exclusive.closed i j wasMarked before
          · exact noMarks (exclusive.oneWindow j i before windowOfTurn) marks
      · rcases marked i holds with before | ⟨rfl, marks⟩
        · exact noMark checks passes i before
        · exact noMarks rfl marks

variable {drift : σ → σ → Prop} {programs : ι → Program Op Res ε α} {own : ι → ω} {start : σ → Prop}

/-- In the runs in which no thread looks while another one is in its window, at most one returns. -/
theorem at_most_once (oneTime : OneTime Op Res ε ω σ)
    (reachable : ((interleavings oneTime.handle drift programs own start).guarded
      oneTime.OneAtATime).Reachable pool)
    (obeys : ∀ i, oneTime.discipline.Obeys (fun vantage => vantage.own = own i ∧ vantage.log = [] ∧
      start vantage.since) (programs i) (fun _ vantage => oneTime.Marked vantage.log) fun _ _ => True)
    (drifts : ∀ before after, drift before after → oneTime.discipline.evolves before after) :
    pool.AtMostOneReturned := by
  obtain ⟨exclusive, orderly⟩ := Discipline.invariant oneTime.Exclusive reachable obeys drifts
    (fun pool turn op rest oneAtATime programIs checks =>
      (oneAtATime op rest programIs checks).1)
    (fun shared _ => .fresh shared)
    fun pool turn next oneAtATime _ exclusive moves => exclusive.step oneAtATime moves
  rintro i j ⟨_, returnedFirst⟩ ⟨_, returnedSecond⟩
  obtain ⟨_, -, markedFirst⟩ := orderly.returned returnedFirst
  obtain ⟨_, -, markedSecond⟩ := orderly.returned returnedSecond
  exact exclusive.oneMarked i j markedFirst markedSecond

end OneTime

end EnterpriseAuth.Effects
