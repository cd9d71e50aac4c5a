import EnterpriseAuth.Effects.Conduct

/-!
# Operations that fail

A `FaultModel` says which operations may fail, with which error, and whether an operation that fails
may have taken effect all the same.  `faulty` turns a handler into one in which the operations fail
as a plan tells them to: it consumes one `Fate` for each operation that may fail, and operations work
once the plan is used up.  The states that faults leave behind are recorded, so that a property of
runs can say where faults struck.
-/

namespace EnterpriseAuth.Effects

inductive Fate where
  | works
  /-- the operation raises and does nothing -/
  | raises
  /-- the operation raises, but it may have taken effect -/
  | lost
  deriving DecidableEq, Repr

structure FaultModel (Op ε : Type) where
  /-- the error of an operation that fails, if it can fail at all -/
  error : Op → Option ε
  /-- the operation takes effect when its reply is lost -/
  takesEffect : Op → Bool

structure Faulty (σ : Type) where
  state : σ
  plan : List Fate
  /-- the states in which faults have left the system, the latest first -/
  struck : List σ := []

variable {Op : Type} {Res : Op → Type} {ε α β σ : Type}

/-- The operation works. -/
def Faulty.work (handle : Handler Op Res ε σ) (op : Op) (faulty : Faulty σ) (plan : List Fate) :
    Except ε (Res op) × Faulty σ :=
  ((handle op faulty.state).1, { faulty with state := (handle op faulty.state).2, plan })

/-- The operation fails and leaves a state. -/
def Faulty.fail (error : ε) (faulty : Faulty σ) (after : σ) (plan : List Fate) :
    Except ε α × Faulty σ :=
  (.error error, { state := after, plan, struck := after :: faulty.struck })

def Handler.faulty (handle : Handler Op Res ε σ) (faults : FaultModel Op ε) :
    Handler Op Res ε (Faulty σ) :=
  fun op faulty =>
    match faults.error op, faulty.plan with
    | none, plan => faulty.work handle op plan
    | some _, [] => faulty.work handle op []
    | some _, .works :: plan => faulty.work handle op plan
    | some error, .raises :: plan => faulty.fail error faulty.state plan
    | some error, .lost :: plan =>
      faulty.fail error
        (if faults.takesEffect op then (handle op faulty.state).2 else faulty.state) plan

section
variable (handle : Handler Op Res ε σ) (faults : FaultModel Op ε)

/-- What an operation may come to: it works, or it fails and leaves the state as it was or with its
effect. -/
theorem faulty_cases (op : Op) (faulty : Faulty σ) :
    (∃ plan, handle.faulty faults op faulty = faulty.work handle op plan) ∨
      ∃ error after plan, faults.error op = some error ∧
        handle.faulty faults op faulty = faulty.fail error after plan ∧
        (after = faulty.state ∨
          faults.takesEffect op = true ∧ after = (handle op faulty.state).2) := by
  simp only [Handler.faulty]
  split
  next => exact .inl ⟨_, rfl⟩
  next => exact .inl ⟨_, rfl⟩
  next => exact .inl ⟨_, rfl⟩
  next error plan fails _ => exact .inr ⟨error, _, plan, fails, rfl, .inl rfl⟩
  next error plan fails _ =>
    refine .inr ⟨error, _, plan, fails, rfl, ?_⟩
    by_cases takesEffect : faults.takesEffect op = true
    · exact .inr ⟨takesEffect, if_pos takesEffect⟩
    · exact .inl (if_neg takesEffect)

/-- An operation that can fail does what the plan says next. -/
theorem faulty_of_fallible {op : Op} {error : ε} (fails : faults.error op = some error)
    (faulty : Faulty σ) :
    handle.faulty faults op faulty =
      match faulty.plan.headD .works with
      | .works => faulty.work handle op faulty.plan.tail
      | .raises => faulty.fail error faulty.state faulty.plan.tail
      | .lost => faulty.fail error
          (if faults.takesEffect op then (handle op faulty.state).2 else faulty.state)
          faulty.plan.tail := by
  obtain ⟨state, plan, struck⟩ := faulty
  simp only [Handler.faulty, fails]
  cases plan with
  | nil => rfl
  | cons fate plan => cases fate <;> rfl

/-- Without faults the program runs as it does under the handler itself. -/
theorem run_faulty_nil (program : Program Op Res ε α) (state : σ) (struck : List σ) :
    program.run (handle.faulty faults) ⟨state, [], struck⟩ =
      ((program.run handle state).1, ⟨(program.run handle state).2, [], struck⟩) := by
  induction program generalizing state with
  | pure value => rfl
  | throw error => rfl
  | perform op next inductionHypothesis =>
    have works : handle.faulty faults op ⟨state, [], struck⟩ =
        ((handle op state).1, ⟨(handle op state).2, [], struck⟩) := by
      simp only [Handler.faulty]
      cases faults.error op <;> rfl
    simp only [Program.run, works]
    exact inductionHypothesis _ _

variable {handle faults}

/-- A program of operations that cannot fail runs as it does without faults. -/
theorem Program.Every.run_faulty {returned : α → Prop} {program : Program Op Res ε α}
    (every : program.Every (fun op => faults.error op = none) returned) (faulty : Faulty σ) :
    program.run (handle.faulty faults) faulty =
      ((program.run handle faulty.state).1,
        { faulty with state := (program.run handle faulty.state).2 }) := by
  induction program generalizing faulty with
  | pure value => rfl
  | throw error => rfl
  | perform op next inductionHypothesis =>
    have works : handle.faulty faults op faulty = faulty.work handle op faulty.plan := by
      simp only [Handler.faulty, every.1]
    simp only [Program.run, works]
    exact inductionHypothesis _ (every.2 _) _

/-- An invariant that allowed operations keep is kept with faults too. -/
theorem Program.Every.keeps_faulty {allowed : Op → Prop} {returned : α → Prop}
    {program : Program Op Res ε α} {invariant : σ → Prop} (every : program.Every allowed returned)
    (step : ∀ op state, allowed op → invariant state → invariant (handle op state).2) :
    Program.Keeps (handle.faulty faults) (fun faulty => invariant faulty.state) program := by
  refine every.keeps fun op faulty isAllowed holds => ?_
  obtain ⟨plan, works⟩ | ⟨error, after, plan, -, fails, left⟩ := faulty_cases handle faults op faulty
  · rw [works]
    exact step op _ isAllowed holds
  · rw [fails]
    cases left with
    | inl same => exact same ▸ holds
    | inr effect => exact effect.2 ▸ step op _ isAllowed holds

/-- An operation that does not fail of itself: it either returns, or a fault struck it. -/
theorem Program.Triple.faulty_call {op : Op} {before : σ → Prop} {after : Res op → σ → Prop}
    {invariant : σ → Prop}
    (works : ∀ state, before state → ∃ result, (handle op state).1 = .ok result ∧
      after result (handle op state).2)
    (holds : ∀ state, before state → invariant state ∧ invariant (handle op state).2) :
    Program.Triple (handle.faulty faults) (fun faulty => before faulty.state)
      (Program.call op : Program Op Res ε (Res op)) (fun result faulty => after result faulty.state)
      (fun error faulty => faults.error op = some error ∧ faulty.state ∈ faulty.struck ∧
        invariant faulty.state) where
  outcome faulty entered := by
    rw [Program.run_call]
    obtain ⟨plan, ran⟩ | ⟨error, left, plan, fails, ran, effect⟩ :=
      faulty_cases handle faults op faulty
    · obtain ⟨result, replied, holdsAfter⟩ := works faulty.state entered
      simpa [ran, Faulty.work, replied] using holdsAfter
    · simp only [ran, Faulty.fail, fails, List.mem_cons, true_or, true_and]
      cases effect with
      | inl same => exact same ▸ (holds faulty.state entered).1
      | inr effect => exact effect.2 ▸ (holds faulty.state entered).2

end

/-! ## Faults that are not survived -/

namespace Program

/-- The program returns nothing, whatever it is answered. -/
abbrev Fails (program : Program Op Res ε α) : Prop :=
  program.Every (fun _ => True) fun _ => False

/-- A fault of any operation ends the program with an error. -/
def Propagates (faults : FaultModel Op ε) : Program Op Res ε α → Prop
  | .pure _ | .throw _ => True
  | .perform op next =>
    (∀ error, faults.error op = some error → (next (.error error)).Fails) ∧
      ∀ reply, (next reply).Propagates faults

variable {faults : FaultModel Op ε} {program : Program Op Res ε α}

theorem Fails.not_ok {handle : Handler Op Res ε σ} {state final : σ} {value : α}
    (fails : program.Fails) : program.run handle state ≠ (.ok value, final) := by
  intro returned
  have triple : Triple handle (fun _ => True) program (fun _ _ => False) fun _ _ => True :=
    Every.triple fails
  exact triple.returned trivial returned

namespace Propagates

theorem call (op : Op) : (Program.call op : Program Op Res ε (Res op)).Propagates faults := by
  refine ⟨fun _ _ => trivial, fun reply => ?_⟩
  cases reply <;> trivial

theorem bind {rest : α → Program Op Res ε β} (first : program.Propagates faults)
    (second : ∀ value, (rest value).Propagates faults) :
    (program >>= rest).Propagates faults := by
  change (program.bind rest).Propagates faults
  induction program with
  | pure value => exact second value
  | throw error => trivial
  | perform op next inductionHypothesis =>
    refine ⟨fun error struck => ?_, fun reply => inductionHypothesis reply (first.2 reply)⟩
    exact Every.bind (first.1 error struck) fun _ => False.elim

theorem tryCatch {recover : ε → Program Op Res ε α} (first : program.Propagates faults)
    (fails : ∀ error, (recover error).Fails) (second : ∀ error, (recover error).Propagates faults) :
    (tryCatch program recover).Propagates faults := by
  change (program.tryCatch recover).Propagates faults
  induction program with
  | pure value => trivial
  | throw error => exact second error
  | perform op next inductionHypothesis =>
    refine ⟨fun error struck => ?_, fun reply => inductionHypothesis reply (first.2 reply)⟩
    exact Every.tryCatch (first.1 error struck) fails

theorem ite {condition : Prop} [Decidable condition] {other : Program Op Res ε α}
    (holds : condition → program.Propagates faults) (fails : ¬ condition → other.Propagates faults) :
    (if condition then program else other).Propagates faults := by
  by_cases decided : condition
  · simpa [decided] using holds decided
  · simpa [decided] using fails decided

/-- A run that returned was not struck, so it is the run without faults. -/
theorem run_of_faulty {handle : Handler Op Res ε σ} {faulty final : Faulty σ} {value : α}
    (propagates : program.Propagates faults)
    (returned : program.run (handle.faulty faults) faulty = (.ok value, final)) :
    program.run handle faulty.state = (.ok value, final.state) := by
  induction program generalizing faulty with
  | pure value => cases returned; rfl
  | throw error => cases returned
  | perform op next inductionHypothesis =>
    simp only [run] at returned ⊢
    obtain ⟨plan, works⟩ | ⟨error, after, plan, struck, fails, -⟩ := faulty_cases handle faults op faulty
    · rw [works] at returned
      exact inductionHypothesis _ (propagates.2 _) returned
    · rw [fails] at returned
      exact absurd returned (propagates.1 error struck).not_ok

end Propagates

end Program

/-! ## The log of a run -/

/-- A state with the operations that took effect in it, the latest first. -/
structure Logged (Op σ : Type) where
  state : σ
  log : List Op := []

def Handler.logged (handle : Handler Op Res ε σ) : Handler Op Res ε (Logged Op σ) :=
  fun op logged => ((handle op logged.state).1, ⟨(handle op logged.state).2, op :: logged.log⟩)

/-- What is left of a run without its log. -/
def Faulty.plain (faulty : Faulty (Logged Op σ)) : Faulty σ where
  state := faulty.state.state
  plan := faulty.plan
  struck := faulty.struck.map (·.state)

section
variable (handle : Handler Op Res ε σ) (faults : FaultModel Op ε)

theorem faulty_plain (op : Op) (faulty : Faulty (Logged Op σ)) :
    handle.faulty faults op faulty.plain =
      ((handle.logged.faulty faults op faulty).1, (handle.logged.faulty faults op faulty).2.plain) := by
  obtain ⟨⟨state, log⟩, plan, struck⟩ := faulty
  cases fails : faults.error op with
  | none => simp only [Handler.faulty, Faulty.plain, fails]; rfl
  | some error =>
    rw [faulty_of_fallible handle faults fails, faulty_of_fallible handle.logged faults fails]
    simp only [Faulty.plain]
    cases plan.headD .works with
    | works => rfl
    | raises => rfl
    | lost =>
      by_cases takesEffect : faults.takesEffect op <;>
        simp [Faulty.fail, takesEffect, Handler.logged]

/-- Nothing depends on the log. -/
theorem run_plain (program : Program Op Res ε α) (faulty : Faulty (Logged Op σ)) :
    program.run (handle.faulty faults) faulty.plain =
      ((program.run (handle.logged.faulty faults) faulty).1,
        (program.run (handle.logged.faulty faults) faulty).2.plain) := by
  induction program generalizing faulty with
  | pure value => rfl
  | throw error => rfl
  | perform op next inductionHypothesis =>
    simp only [Program.run, faulty_plain]
    exact inductionHypothesis _ _

end

/-! ## Cancellation -/

namespace Program

/-- The state once the first operations of a program have run: it is cancelled before the next. -/
def runUpTo (handle : Handler Op Res ε σ) : Nat → Program Op Res ε α → σ → σ
  | _, .pure _, state | _, .throw _, state => state
  | 0, .perform _ _, state => state
  | count + 1, .perform op next, state =>
    (next (handle op state).1).runUpTo handle count (handle op state).2

/-- The state that a program leaves which is cancelled after some operations, if at all. -/
def leaves (handle : Handler Op Res ε σ) (cut : Option Nat) (program : Program Op Res ε α)
    (state : σ) : σ :=
  match cut with
  | none => (program.run handle state).2
  | some count => program.runUpTo handle count state

/-- The operations that a cancellation after `cut` of them still lets run. -/
def afterOne : Option Nat → Option Nat
  | none => none
  | some count => some (count - 1)

theorem leaves_perform {handle : Handler Op Res ε σ} {cut : Option Nat} (runs : cut ≠ some 0) (op : Op)
    (next : Except ε (Res op) → Program Op Res ε α) (state : σ) :
    (Program.perform op next).leaves handle cut state =
      (next (handle op state).1).leaves handle (afterOne cut) (handle op state).2 := by
  cases cut with
  | none => rfl
  | some count =>
    cases count with
    | zero => exact absurd rfl runs
    | succ count => rfl

/-- What every allowed operation keeps is kept wherever the program is cancelled. -/
theorem Every.keeps_leaves {handle : Handler Op Res ε σ} {allowed : Op → Prop} {returned : α → Prop}
    {program : Program Op Res ε α} {invariant : σ → Prop} (every : program.Every allowed returned)
    (step : ∀ op state, allowed op → invariant state → invariant (handle op state).2)
    (cut : Option Nat) {state : σ} (holds : invariant state) :
    invariant (program.leaves handle cut state) := by
  induction program generalizing cut state with
  | pure value => cases cut <;> simpa [leaves, run, runUpTo] using holds
  | throw error => cases cut <;> simpa [leaves, run, runUpTo] using holds
  | perform op next inductionHypothesis =>
    by_cases cancelled : cut = some 0
    · subst cancelled
      exact holds
    · rw [leaves_perform cancelled]
      exact inductionHypothesis _ (every.2 _) _ (step op state every.1 holds)

end Program

end EnterpriseAuth.Effects
