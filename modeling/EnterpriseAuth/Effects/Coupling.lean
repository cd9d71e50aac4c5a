import EnterpriseAuth.Effects.Conduct

/-!
# Two runs of one program

`Coupled before program after wanted` compares the runs of a program from two states that are related
by `before`: both end alike, in states that are related by `after`, and a value that they return is as
wanted.  Where the states agree on everything that the replies to the allowed operations depend on, a
program that calls nothing else is coupled (`Every.coupled`); what else it calls is compared by hand
and put together by `Coupled.bind`.
-/

namespace EnterpriseAuth.Effects.Program

variable {Op : Type} {Res : Op → Type} {ε α β σ : Type}

structure Coupled (handle : Handler Op Res ε σ) (before : σ → σ → Prop) (program : Program Op Res ε α)
    (after : σ → σ → Prop) (wanted : α → Prop) : Prop where
  runs : ∀ left right, before left right →
    (program.run handle right).1 = (program.run handle left).1 ∧
      after (program.run handle left).2 (program.run handle right).2 ∧
      ∀ value, (program.run handle left).1 = .ok value → wanted value

variable {handle : Handler Op Res ε σ} {before after related : σ → σ → Prop}
  {program : Program Op Res ε α} {wanted : α → Prop}

namespace Coupled

theorem pure {value : α} (holds : wanted value) :
    Coupled handle related (Pure.pure value : Program Op Res ε α) related wanted :=
  ⟨fun _ _ alike => ⟨rfl, alike, fun _ same => Except.ok.inj same ▸ holds⟩⟩

theorem enter {narrower : σ → σ → Prop} (coupled : Coupled handle before program after wanted)
    (narrow : ∀ left right, narrower left right → before left right) :
    Coupled handle narrower program after wanted :=
  ⟨fun left right alike => coupled.runs left right (narrow left right alike)⟩

theorem bind {rest : α → Program Op Res ε β} {middle : σ → σ → Prop} {final : β → Prop}
    (first : Coupled handle before program middle wanted)
    (raised : ∀ left right, middle left right → after left right)
    (second : ∀ value, wanted value → Coupled handle middle (rest value) after final) :
    Coupled handle before (program >>= rest) after final := by
  constructor
  intro left right alike
  obtain ⟨replies, states, returned⟩ := first.runs left right alike
  rw [run_bind, run_bind]
  cases ran : program.run handle left with
  | mk reply next =>
    cases ranRight : program.run handle right with
    | mk replyRight nextRight =>
      simp only [ran, ranRight] at replies states returned
      subst replies
      cases replyRight with
      | error error => exact ⟨rfl, raised _ _ states, fun _ same => by cases same⟩
      | ok value => exact (second value (returned value rfl)).runs _ _ states

theorem map {transform : α → β} {final : β → Prop}
    (first : Coupled handle before program after fun value => final (transform value)) :
    Coupled handle before (transform <$> program) after final :=
  bind first (fun _ _ => id) fun _ holds => pure holds

/-- A program that raises the same error in both runs. -/
theorem raises
    (runs : ∀ left right, before left right → ∃ error,
      (program.run handle left).1 = .error error ∧ (program.run handle right).1 = .error error ∧
      after (program.run handle left).2 (program.run handle right).2) :
    Coupled handle before program after wanted := by
  constructor
  intro left right alike
  obtain ⟨error, first, second, states⟩ := runs left right alike
  refine ⟨second.trans first.symm, states, fun value same => ?_⟩
  rw [first] at same
  cases same

end Coupled

/-- A program whose operations are answered alike. -/
theorem Every.coupled {allowed : Op → Prop} (every : program.Every allowed wanted)
    (alike : ∀ op left right, allowed op → related left right →
      (handle op right).1 = (handle op left).1 ∧ related (handle op left).2 (handle op right).2) :
    Coupled handle related program related wanted := by
  constructor
  intro left right same
  induction program generalizing left right with
  | pure value => exact ⟨rfl, same, fun _ returned => Except.ok.inj returned ▸ every⟩
  | throw error => exact ⟨rfl, same, fun _ returned => by cases returned⟩
  | perform op next inductionHypothesis =>
    obtain ⟨reply, states⟩ := alike op left right every.1 same
    simp only [run, reply]
    exact inductionHypothesis _ (every.2 _) _ _ states

end EnterpriseAuth.Effects.Program
