import Mathlib.Logic.Relation

/-!
# Labelled transition systems

A `System` starts in some states and moves between states along labels.  An invariant is proved
once for the start and once for a step (`Reachable.invariant`); a property of all runs whose steps
meet a condition is an invariant of the `guarded` system, whose runs are exactly those.
-/

namespace EnterpriseAuth.Effects

structure System (State Label : Type) where
  start : State → Prop
  step : State → Label → State → Prop

namespace System

variable {State Label : Type} {system : System State Label}

/-- Zero or more steps. -/
def Leads (system : System State Label) : State → State → Prop :=
  Relation.ReflTransGen fun before after => ∃ label, system.step before label after

def Reachable (system : System State Label) (state : State) : Prop :=
  ∃ first, system.start first ∧ system.Leads first state

/-- The runs of `system` all of whose steps meet the condition. -/
def guarded (system : System State Label) (condition : State → Label → Prop) :
    System State Label where
  start := system.start
  step before label after := condition before label ∧ system.step before label after

theorem Leads.refl (state : State) : system.Leads state state :=
  Relation.ReflTransGen.refl

theorem Leads.trans {first second third : State} (left : system.Leads first second)
    (right : system.Leads second third) : system.Leads first third :=
  Relation.ReflTransGen.trans left right

theorem Leads.tail {first second third : State} {label : Label}
    (left : system.Leads first second) (step : system.step second label third) :
    system.Leads first third :=
  Relation.ReflTransGen.tail left ⟨label, step⟩

theorem Leads.invariant (invariant : State → Prop) {before after : State}
    (leads : system.Leads before after) (holds : invariant before)
    (keeps : ∀ state label next, invariant state → system.step state label next → invariant next) :
    invariant after := by
  induction leads with
  | refl => exact holds
  | tail _ step inductionHypothesis =>
    obtain ⟨label, step⟩ := step
    exact keeps _ label _ inductionHypothesis step

theorem Reachable.start {state : State} (holds : system.start state) : system.Reachable state :=
  ⟨state, holds, .refl state⟩

theorem Reachable.step {state next : State} {label : Label} (reachable : system.Reachable state)
    (step : system.step state label next) : system.Reachable next := by
  obtain ⟨first, starts, leads⟩ := reachable
  exact ⟨first, starts, leads.tail step⟩

theorem Reachable.leads {state next : State} (reachable : system.Reachable state)
    (leads : system.Leads state next) : system.Reachable next := by
  obtain ⟨first, starts, before⟩ := reachable
  exact ⟨first, starts, before.trans leads⟩

/-- An invariant of the start that every step from a reachable state keeps. -/
theorem Reachable.invariant (invariant : State → Prop) {state : State}
    (reachable : system.Reachable state) (holds : ∀ first, system.start first → invariant first)
    (keeps : ∀ before label after, system.Reachable before → invariant before →
      system.step before label after → invariant after) :
    invariant state := by
  obtain ⟨first, starts, leads⟩ := reachable
  have both : system.Reachable state ∧ invariant state := by
    induction leads with
    | refl => exact ⟨.start starts, holds first starts⟩
    | tail _ step inductionHypothesis =>
      obtain ⟨label, step⟩ := step
      exact ⟨inductionHypothesis.1.step step,
        keeps _ label _ inductionHypothesis.1 inductionHypothesis.2 step⟩
  exact both.2

theorem Leads.of_guarded {condition : State → Label → Prop} {before after : State}
    (leads : (system.guarded condition).Leads before after) : system.Leads before after := by
  induction leads with
  | refl => exact .refl before
  | tail _ step inductionHypothesis =>
    obtain ⟨label, _, step⟩ := step
    exact inductionHypothesis.tail step

/-- Every run meets a condition that always holds. -/
theorem Reachable.unconditional {state : State} (reachable : system.Reachable state) :
    (system.guarded fun _ _ => True).Reachable state := by
  obtain ⟨first, starts, leads⟩ := reachable
  refine ⟨first, starts, ?_⟩
  apply leads.invariant (fun state => (system.guarded fun _ _ => True).Leads first state) (.refl first)
  intro state label next before step
  exact before.tail ⟨trivial, step⟩

theorem Reachable.of_guarded {condition : State → Label → Prop} {state : State}
    (reachable : (system.guarded condition).Reachable state) : system.Reachable state := by
  obtain ⟨first, starts, leads⟩ := reachable
  exact ⟨first, starts, leads.of_guarded⟩

end System

end EnterpriseAuth.Effects
