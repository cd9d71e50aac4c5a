import EnterpriseAuth.Effects.Program

/-!
# What a program does whatever it is answered

`Every allowed returned program` reads off the tree of a program that all the operations it may call
are allowed and all the values it may return are as wanted.  No handler is involved, so the facts
hold of sequential runs, of runs in which operations fail, and of interleaved ones: `Every.keeps`
and `Every.triple` carry them over to a handler.

`Only allowed` is the class of programs that call nothing but allowed operations.
-/

namespace EnterpriseAuth.Effects.Program

variable {Op : Type} {Res : Op → Type} {ε α β σ : Type}

def Every (allowed : Op → Prop) (returned : α → Prop) : Program Op Res ε α → Prop
  | .pure value => returned value
  | .throw _ => True
  | .perform op next => allowed op ∧ ∀ reply, (next reply).Every allowed returned

namespace Every

variable {allowed : Op → Prop} {returned : α → Prop} {program : Program Op Res ε α}

theorem pure {value : α} (wanted : returned value) :
    (Pure.pure value : Program Op Res ε α).Every allowed returned :=
  wanted

theorem throw (error : ε) : (throw error : Program Op Res ε α).Every allowed returned :=
  trivial

theorem bind {rest : α → Program Op Res ε β} {final : β → Prop}
    (first : program.Every allowed returned)
    (second : ∀ value, returned value → (rest value).Every allowed final) :
    (program >>= rest).Every allowed final := by
  change (program.bind rest).Every allowed final
  induction program with
  | pure value => exact second value first
  | throw error => trivial
  | perform op next inductionHypothesis =>
    exact ⟨first.1, fun reply => inductionHypothesis reply (first.2 reply)⟩

/-- The bind rule where nothing is wanted of the value in between. -/
theorem sequence {rest : α → Program Op Res ε β} {final : β → Prop}
    (first : program.Every allowed fun _ => True)
    (second : ∀ value, (rest value).Every allowed final) :
    (program >>= rest).Every allowed final :=
  first.bind fun value _ => second value

/-- Of every program something is true. -/
theorem anything (program : Program Op Res ε α) :
    program.Every (fun _ => True) fun _ => True := by
  induction program with
  | pure value => trivial
  | throw error => trivial
  | perform op next inductionHypothesis => exact ⟨trivial, inductionHypothesis⟩

/-- Nothing needs to be known of the first part. -/
theorem skip {program : Program Op Res ε α} {rest : α → Program Op Res ε β} {final : β → Prop}
    (second : ∀ value, (rest value).Every (fun _ => True) final) :
    (program >>= rest).Every (fun _ => True) final :=
  (anything program).sequence second

theorem map {transform : α → β} {wanted : β → Prop}
    (first : program.Every allowed fun value => wanted (transform value)) :
    (transform <$> program).Every allowed wanted :=
  Every.bind first fun _ holds => holds

theorem tryCatch {recover : ε → Program Op Res ε α} (first : program.Every allowed returned)
    (second : ∀ error, (recover error).Every allowed returned) :
    (tryCatch program recover).Every allowed returned := by
  change (program.tryCatch recover).Every allowed returned
  induction program with
  | pure value => exact first
  | throw error => exact second error
  | perform op next inductionHypothesis =>
    exact ⟨first.1, fun reply => inductionHypothesis reply (first.2 reply)⟩

theorem ite {condition : Prop} [Decidable condition] {other : Program Op Res ε α}
    (holds : condition → program.Every allowed returned)
    (fails : ¬ condition → other.Every allowed returned) :
    (if condition then program else other).Every allowed returned := by
  by_cases decided : condition
  · simpa [decided] using holds decided
  · simpa [decided] using fails decided

theorem call {op : Op} {wanted : Res op → Prop} (isAllowed : allowed op)
    (all : ∀ result, wanted result) :
    (call op : Program Op Res ε (Res op)).Every allowed wanted := by
  refine ⟨isAllowed, fun reply => ?_⟩
  cases reply with
  | ok result => exact all result
  | error => trivial

theorem mono {wider : Op → Prop} {weaker : α → Prop} (every : program.Every allowed returned)
    (widen : ∀ op, allowed op → wider op) (weaken : ∀ value, returned value → weaker value) :
    program.Every wider weaker := by
  induction program with
  | pure value => exact weaken value every
  | throw error => trivial
  | perform op next inductionHypothesis =>
    exact ⟨widen op every.1, fun reply => inductionHypothesis reply (every.2 reply)⟩

/-! ## Under a handler -/

variable {handle : Handler Op Res ε σ}

theorem triple {before : σ → Prop} (every : program.Every allowed returned) :
    Triple handle before program (fun value _ => returned value) fun _ _ => True := by
  constructor
  intro state entered
  clear entered
  induction program generalizing state with
  | pure value => exact every
  | throw error => trivial
  | perform op next inductionHypothesis => exact inductionHypothesis _ (every.2 _) _

/-- What every allowed operation keeps, the program keeps. -/
theorem keeps {invariant : σ → Prop} (every : program.Every allowed returned)
    (step : ∀ op state, allowed op → invariant state → invariant (handle op state).2) :
    Keeps handle invariant program := by
  refine Keeps.of_final fun state holds => ?_
  induction program generalizing state with
  | pure value => exact holds
  | throw error => exact holds
  | perform op next inductionHypothesis =>
    exact inductionHypothesis _ (every.2 _) _ (step op state every.1 holds)

end Every

end EnterpriseAuth.Effects.Program
