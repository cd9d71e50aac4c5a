/-!
# Programs over a signature of operations

A `Program` is a finite tree of calls: each node names an operation and holds one continuation
for its reply, and a reply is a result or an error.  Nothing about an operation is fixed by the
tree, so the same program is run from start to end against one state (`run`), against an
operation that may fail, or interleaved with other programs.

`Triple` is the partial-correctness judgement of `run`, with one postcondition for a normal
return and one for an exception.  `Keeps` is its special case for an invariant.
-/

namespace EnterpriseAuth.Effects

inductive Program (Op : Type) (Res : Op → Type) (ε α : Type) : Type where
  | protected pure (value : α)
  | protected throw (error : ε)
  | perform (op : Op) (next : Except ε (Res op) → Program Op Res ε α)

/-- What an operation replies in a state, and the state it leaves. -/
abbrev Handler (Op : Type) (Res : Op → Type) (ε σ : Type) : Type :=
  (op : Op) → σ → Except ε (Res op) × σ

namespace Program

variable {Op : Type} {Res : Op → Type} {ε α β σ : Type}

protected def bind : Program Op Res ε α → (α → Program Op Res ε β) → Program Op Res ε β
  | .pure value, rest => rest value
  | .throw error, _ => .throw error
  | .perform op next, rest => .perform op fun reply => (next reply).bind rest

protected def tryCatch :
    Program Op Res ε α → (ε → Program Op Res ε α) → Program Op Res ε α
  | .pure value, _ => .pure value
  | .throw error, recover => recover error
  | .perform op next, recover => .perform op fun reply => (next reply).tryCatch recover

instance : Monad (Program Op Res ε) where
  pure := .pure
  bind := Program.bind

instance : MonadExceptOf ε (Program Op Res ε) where
  throw := .throw
  tryCatch := Program.tryCatch

/-- The program that calls one operation and returns its result. -/
def call (op : Op) : Program Op Res ε (Res op) :=
  .perform op fun
    | .ok result => .pure result
    | .error error => .throw error

@[simp] theorem throw_bind (error : ε) (rest : α → Program Op Res ε β) :
    (throw error >>= rest : Program Op Res ε β) = throw error := rfl

@[simp] theorem pure_bind (value : α) (rest : α → Program Op Res ε β) :
    (pure value >>= rest : Program Op Res ε β) = rest value := rfl

@[simp] theorem ite_bind (condition : Prop) [Decidable condition] (first second : Program Op Res ε α)
    (rest : α → Program Op Res ε β) :
    (if condition then first else second) >>= rest =
      if condition then first >>= rest else second >>= rest := by
  split <;> rfl

/-! ## Sequential execution -/

def run (handle : Handler Op Res ε σ) : Program Op Res ε α → σ → Except ε α × σ
  | .pure value, state => (.ok value, state)
  | .throw error, state => (.error error, state)
  | .perform op next, state => (next (handle op state).1).run handle (handle op state).2

variable {handle : Handler Op Res ε σ}

@[simp] theorem run_pure (value : α) (state : σ) :
    (Pure.pure value : Program Op Res ε α).run handle state = (.ok value, state) := rfl

@[simp] theorem run_throw (error : ε) (state : σ) :
    (throw error : Program Op Res ε α).run handle state = (.error error, state) := rfl

@[simp] theorem run_call (op : Op) (state : σ) :
    (call op : Program Op Res ε (Res op)).run handle state = handle op state := by
  simp only [call, run]
  split <;> rename_i reply <;> simp only [run, ← reply]

@[simp] theorem run_bind (program : Program Op Res ε α) (rest : α → Program Op Res ε β)
    (state : σ) :
    (program >>= rest).run handle state =
      match program.run handle state with
      | (.ok value, next) => (rest value).run handle next
      | (.error error, next) => (.error error, next) := by
  change (program.bind rest).run handle state = _
  induction program generalizing state with
  | pure value => rfl
  | throw error => rfl
  | perform op next inductionHypothesis => exact inductionHypothesis _ _

@[simp] theorem run_map (transform : α → β) (program : Program Op Res ε α) (state : σ) :
    (transform <$> program).run handle state =
      match program.run handle state with
      | (.ok value, next) => (.ok (transform value), next)
      | (.error error, next) => (.error error, next) :=
  run_bind program (fun value => Pure.pure (transform value)) state

@[simp] theorem run_tryCatch (program : Program Op Res ε α) (recover : ε → Program Op Res ε α)
    (state : σ) :
    (tryCatch program recover).run handle state =
      match program.run handle state with
      | (.ok value, next) => (.ok value, next)
      | (.error error, next) => (recover error).run handle next := by
  change (program.tryCatch recover).run handle state = _
  induction program generalizing state with
  | pure value => rfl
  | throw error => rfl
  | perform op next inductionHypothesis => exact inductionHypothesis _ _

/-- A sequence that returned has returned from its first part. -/
theorem run_bind_ok {program : Program Op Res ε α} {rest : α → Program Op Res ε β} {state final : σ}
    {value : β} (ran : (program >>= rest).run handle state = (.ok value, final)) :
    ∃ result middle, program.run handle state = (.ok result, middle) ∧
      (rest result).run handle middle = (.ok value, final) := by
  rw [run_bind] at ran
  split at ran
  next result middle first => exact ⟨result, middle, first, ran⟩
  next => cases ran

theorem run_map_ok {transform : α → β} {program : Program Op Res ε α} {state final : σ} {value : β}
    (ran : (transform <$> program).run handle state = (.ok value, final)) :
    ∃ result, program.run handle state = (.ok result, final) ∧ value = transform result := by
  rw [run_map] at ran
  split at ran
  next result middle first => cases ran; exact ⟨result, first, rfl⟩
  next => cases ran

theorem run_ite (condition : Prop) [Decidable condition] (first second : Program Op Res ε α)
    (state : σ) :
    (if condition then first else second).run handle state =
      if condition then first.run handle state else second.run handle state := by
  split <;> rfl

/-! ## Triples -/

/-- From `before`, the program either returns in `after` or raises in `raised`. -/
structure Triple (handle : Handler Op Res ε σ) (before : σ → Prop) (program : Program Op Res ε α)
    (after : α → σ → Prop) (raised : ε → σ → Prop) : Prop where
  outcome : ∀ state, before state →
    match program.run handle state with
    | (.ok value, final) => after value final
    | (.error error, final) => raised error final

/-- The invariant holds after the program, however it ends. -/
abbrev Keeps (handle : Handler Op Res ε σ) (invariant : σ → Prop)
    (program : Program Op Res ε α) : Prop :=
  Triple handle invariant program (fun _ => invariant) (fun _ => invariant)

section
variable {before : σ → Prop} {after : α → σ → Prop} {raised : ε → σ → Prop}

theorem Triple.pure {value : α} (holds : ∀ state, before state → after value state) :
    Triple handle before (Pure.pure value) after raised :=
  ⟨holds⟩

theorem Triple.throw {error : ε} (holds : ∀ state, before state → raised error state) :
    Triple handle before (throw error : Program Op Res ε α) after raised :=
  ⟨holds⟩

theorem Triple.bind {program : Program Op Res ε α} {rest : α → Program Op Res ε β}
    {final : β → σ → Prop} (first : Triple handle before program after raised)
    (second : ∀ value, Triple handle (after value) (rest value) final raised) :
    Triple handle before (program >>= rest) final raised where
  outcome state holds := by
    have middle := first.outcome state holds
    rw [run_bind]
    split at middle
    next value next returned => exact (second value).outcome next middle
    next error next returned => exact middle

/-- Running the first part of a program from a known state. -/
theorem Triple.start {program : Program Op Res ε α} {rest : α → Program Op Res ε β}
    {state : σ} {final : β → σ → Prop}
    (fails : ∀ error next, program.run handle state = (.error error, next) → raised error next)
    (returns : ∀ value next, program.run handle state = (.ok value, next) →
      Triple handle (· = next) (rest value) final raised) :
    Triple handle (· = state) (program >>= rest) final raised := by
  constructor
  rintro _ rfl
  rw [run_bind]
  cases ran : program.run handle _ with
  | mk reply next =>
    cases reply with
    | ok value => exact (returns value next ran).outcome next rfl
    | error error => exact fails error next ran

/-- A first part of which nothing is needed. -/
theorem Triple.skip {program : Program Op Res ε α} {rest : α → Program Op Res ε β}
    {final : β → σ → Prop}
    (second : ∀ value, Triple handle (fun _ => True) (rest value) final fun _ _ => True) :
    Triple handle before (program >>= rest) final fun _ _ => True where
  outcome state _ := by
    rw [run_bind]
    cases ran : program.run handle state with
    | mk reply middle =>
      cases reply with
      | ok value => exact (second value).outcome middle trivial
      | error => trivial

theorem Triple.tryCatch {program : Program Op Res ε α} {recover : ε → Program Op Res ε α}
    {failed : ε → σ → Prop} (first : Triple handle before program after failed)
    (second : ∀ error, Triple handle (failed error) (recover error) after raised) :
    Triple handle before (tryCatch program recover) after raised where
  outcome state holds := by
    have middle := first.outcome state holds
    rw [run_tryCatch]
    split at middle
    next value next returned => exact middle
    next error next returned => exact (second error).outcome next middle

theorem Triple.weaken {program : Program Op Res ε α} {stronger : σ → Prop}
    {after' : α → σ → Prop} {raised' : ε → σ → Prop}
    (triple : Triple handle before program after raised)
    (enter : ∀ state, stronger state → before state)
    (leave : ∀ value state, after value state → after' value state)
    (fail : ∀ error state, raised error state → raised' error state) :
    Triple handle stronger program after' raised' where
  outcome state holds := by
    have result := triple.outcome state (enter state holds)
    split at result
    · exact leave _ _ result
    · exact fail _ _ result

theorem Triple.ite {condition : Prop} [Decidable condition]
    {first second : Program Op Res ε α}
    (holds : condition → Triple handle before first after raised)
    (fails : ¬ condition → Triple handle before second after raised) :
    Triple handle before (if condition then first else second) after raised := by
  split
  next yes => exact holds yes
  next no => exact fails no

/-- A program that returns what it reads and changes nothing. -/
theorem Triple.read {program : Program Op Res ε α} {result : σ → α}
    (ran : ∀ state, program.run handle state = (.ok (result state), state)) :
    Triple handle before program (fun value state => before state ∧ value = result state)
      raised where
  outcome state holds := by
    rw [ran]
    exact ⟨holds, rfl⟩

/-- A program that certainly returns. -/
theorem Triple.returns {program : Program Op Res ε α} {result : σ → α} {next : σ → σ}
    (ran : ∀ state, before state → program.run handle state = (.ok (result state), next state))
    (holds : ∀ state, before state → after (result state) (next state)) :
    Triple handle before program after raised where
  outcome state entered := by
    rw [ran state entered]
    exact holds state entered

/-- What is known before a program remains known, whatever it does. -/
theorem Triple.known {program : Program Op Res ε α} {fact : Prop}
    (known : ∀ state, before state → fact) :
    Triple handle before program (fun _ _ => fact) fun _ _ => True where
  outcome state holds := by
    split
    · exact known state holds
    · trivial

/-- A fact that is known on entry, whatever the state. -/
theorem Triple.of_fact {program : Program Op Res ε α} {fact : Prop}
    (triple : fact → Triple handle before program after raised) :
    Triple handle (fun state => fact ∧ before state) program after raised where
  outcome state entered := (triple entered.1).outcome state entered.2

/-- Two triples of one program. -/
theorem Triple.and {program : Program Op Res ε α} {before' : σ → Prop} {after' : α → σ → Prop}
    {raised' : ε → σ → Prop} (first : Triple handle before program after raised)
    (second : Triple handle before' program after' raised') :
    Triple handle (fun state => before state ∧ before' state) program
      (fun value state => after value state ∧ after' value state)
      fun error state => raised error state ∧ raised' error state where
  outcome state holds := by
    have left := first.outcome state holds.1
    have right := second.outcome state holds.2
    split
    next value final ran =>
      rw [ran] at left right
      exact ⟨left, right⟩
    next error final ran =>
      rw [ran] at left right
      exact ⟨left, right⟩

/-- A triple read at a run that returned. -/
theorem Triple.returned {program : Program Op Res ε α} {state final : σ} {value : α}
    (triple : Triple handle before program after raised) (holds : before state)
    (ran : program.run handle state = (.ok value, final)) : after value final := by
  have result := triple.outcome state holds
  rwa [ran] at result

/-- A triple read at a run that raised. -/
theorem Triple.failed {program : Program Op Res ε α} {state final : σ} {error : ε}
    (triple : Triple handle before program after raised) (holds : before state)
    (ran : program.run handle state = (.error error, final)) : raised error final := by
  have result := triple.outcome state holds
  rwa [ran] at result

end

section
variable {invariant : σ → Prop}

theorem Keeps.pure (value : α) : Keeps handle invariant (Pure.pure value : Program Op Res ε α) :=
  Triple.pure fun _ => id

theorem Keeps.throw (error : ε) :
    Keeps handle invariant (throw error : Program Op Res ε α) :=
  Triple.throw fun _ => id

theorem Keeps.bind {program : Program Op Res ε α} {rest : α → Program Op Res ε β}
    (first : Keeps handle invariant program) (second : ∀ value, Keeps handle invariant (rest value)) :
    Keeps handle invariant (program >>= rest) :=
  Triple.bind first second

theorem Keeps.tryCatch {program : Program Op Res ε α} {recover : ε → Program Op Res ε α}
    (first : Keeps handle invariant program)
    (second : ∀ error, Keeps handle invariant (recover error)) :
    Keeps handle invariant (tryCatch program recover) :=
  Triple.tryCatch first second

/-- The invariant at the end of a run. -/
theorem Keeps.final {program : Program Op Res ε α} {state : σ}
    (keeps : Keeps handle invariant program) (holds : invariant state) :
    invariant (program.run handle state).2 := by
  have result := keeps.outcome state holds
  split at result <;> rename_i ran <;> rwa [ran]

/-- A triple about the final state only. -/
theorem Triple.of_final {program : Program Op Res ε α} {before after : σ → Prop}
    (step : ∀ state, before state → after (program.run handle state).2) :
    Triple handle before program (fun _ => after) (fun _ => after) where
  outcome state holds := by
    have reached := step state holds
    split <;> rename_i ran <;> rwa [ran] at reached

/-- A program that keeps the invariant because its final state does. -/
theorem Keeps.of_final {program : Program Op Res ε α}
    (step : ∀ state, invariant state → invariant (program.run handle state).2) :
    Keeps handle invariant program :=
  Triple.of_final step

theorem Keeps.call {op : Op}
    (step : ∀ state, invariant state → invariant (handle op state).2) :
    Keeps handle invariant (call op : Program Op Res ε (Res op)) :=
  Keeps.of_final fun state holds => by rw [run_call]; exact step state holds

end

end Program

end EnterpriseAuth.Effects
