import Mathlib.Algebra.Order.Monoid.Unbundled.Basic
import Mathlib.Data.List.Basic

/-!
# Failures counted in windows

The first failure opens a window of a fixed length.  Later failures inside the window are counted
in it and a success closes it.  A window with `limit` failures is full: for one more length after
the last of them every attempt is refused.  Logs of attempts have the latest attempt first, and so
have the instants that a window holds.
-/

namespace EnterpriseAuth.Effects

inductive Verdict where
  | failed | succeeded | refused
  /-- neither a failure nor a success -/
  | undecided
  deriving DecidableEq

structure Attempt (Time : Type) where
  instant : Time
  verdict : Verdict

namespace FailureWindow

variable {Time : Type} [LinearOrder Time]

/-! ## Windows -/

section
variable [Add Time] (limit : ℕ) (length : Time)

/-- A failure at the instant is counted in the window. -/
def isOpen (window : List Time) (now : Time) : Bool :=
  window.length < limit && window.getLast?.any fun opening => now < opening + length

/-- The window is full and its last failure is recent. -/
def isLocked (window : List Time) (now : Time) : Bool :=
  limit ≤ window.length && window.head?.any fun last => now < last + length

/-- The failures that the latest window holds. -/
def counted : List (Attempt Time) → List Time
  | [] => []
  | attempt :: earlier =>
    match attempt.verdict with
    | .failed =>
      if isOpen limit length (counted earlier) attempt.instant then
        attempt.instant :: counted earlier
      else [attempt.instant]
    | .succeeded => []
    | .refused | .undecided => counted earlier

/-- The attempts are in order, and those and only those that meet a full window are refused. -/
inductive Lawful : List (Attempt Time) → Prop
  | nil : Lawful []
  | cons {attempt : Attempt Time} {earlier : List (Attempt Time)} (lawful : Lawful earlier)
    (latest : ∀ other ∈ earlier, other.instant ≤ attempt.instant)
    (gate : attempt.verdict = .refused ↔
      isLocked limit length (counted limit length earlier) attempt.instant) :
    Lawful (attempt :: earlier)

end

/-- The failures since the latest success. -/
def streak : List (Attempt Time) → List Time
  | [] => []
  | attempt :: earlier =>
    match attempt.verdict with
    | .failed => attempt.instant :: streak earlier
    | .succeeded => []
    | .refused | .undecided => streak earlier

/-- A failure in the interval of the given length from `start` on. -/
def failedWithin [Add Time] (start length : Time) (attempt : Attempt Time) : Bool :=
  attempt.verdict = .failed && start ≤ attempt.instant && attempt.instant < start + length

variable [Add Time] {limit : ℕ} {length : Time} {window : List Time} {now opening last : Time}

theorem isOpen_iff (opened : window.getLast? = some opening) :
    isOpen limit length window now ↔ window.length < limit ∧ now < opening + length := by
  simp [isOpen, opened]

theorem isLocked_iff (latest : window.head? = some last) :
    isLocked limit length window now ↔ limit ≤ window.length ∧ now < last + length := by
  simp [isLocked, latest]

variable {attempt : Attempt Time} {earlier log : List (Attempt Time)}

/-! ## What a window holds -/

theorem counted_sublist (log : List (Attempt Time)) :
    (counted limit length log).Sublist (streak log) := by
  induction log with
  | nil => exact .slnil
  | cons attempt earlier inductionHypothesis =>
    unfold counted streak
    cases attempt.verdict with
    | failed =>
      simp only
      split
      · exact inductionHypothesis.cons_cons _
      · exact (List.nil_sublist _).cons_cons _
    | succeeded => exact .slnil
    | refused => exact inductionHypothesis
    | undecided => exact inductionHypothesis

omit [LinearOrder Time] [Add Time] in
theorem mem_streak {instant : Time} (member : instant ∈ streak log) :
    ∃ attempt ∈ log, attempt.instant = instant := by
  induction log with
  | nil => cases member
  | cons attempt earlier inductionHypothesis =>
    have fromEarlier (member : instant ∈ streak earlier) :
        ∃ other ∈ attempt :: earlier, other.instant = instant := by
      obtain ⟨other, mem, same⟩ := inductionHypothesis member
      exact ⟨other, List.mem_cons_of_mem _ mem, same⟩
    unfold streak at member
    cases verdict : attempt.verdict with
    | failed =>
      rw [verdict] at member
      rcases List.mem_cons.mp member with rfl | old
      · exact ⟨attempt, List.mem_cons_self, rfl⟩
      · exact fromEarlier old
    | succeeded => rw [verdict] at member; cases member
    | refused => rw [verdict] at member; exact fromEarlier member
    | undecided => rw [verdict] at member; exact fromEarlier member

theorem counted_length_le (positive : 0 < limit) (log : List (Attempt Time)) :
    (counted limit length log).length ≤ limit := by
  induction log with
  | nil => exact Nat.zero_le _
  | cons attempt earlier inductionHypothesis =>
    unfold counted
    cases attempt.verdict with
    | failed =>
      simp only
      split
      next opened =>
        simp only [isOpen, Bool.and_eq_true, decide_eq_true_eq] at opened
        exact opened.1
      next => exact positive
    | succeeded => exact Nat.zero_le _
    | refused => exact inductionHypothesis
    | undecided => exact inductionHypothesis

/-- The failures of a window are in order and lie within its length. -/
theorem Lawful.span (lawful : Lawful limit length log)
    (later : ∀ instant : Time, instant < instant + length)
    (opened : (counted limit length log).getLast? = some opening) :
    (counted limit length log).Pairwise (· ≥ ·) ∧
      ∀ instant ∈ counted limit length log, opening ≤ instant ∧ instant < opening + length := by
  induction lawful with
  | nil => cases opened
  | @cons attempt earlier lawful latest gate inductionHypothesis =>
    unfold counted at opened ⊢
    cases verdict : attempt.verdict with
    | failed =>
      rw [verdict] at opened
      simp only at opened ⊢
      split at opened
      -- a failure in the open window is the newest of it
      next inside =>
        cases former : (counted limit length earlier).getLast? with
        | none => simp [isOpen, former] at inside
        | some first =>
          rw [List.getLast?_cons, former] at opened
          cases opened
          obtain ⟨sorted, held⟩ := inductionHypothesis former
          rw [if_pos inside]
          have newest (instant : Time) (member : instant ∈ counted limit length earlier) :
              instant ≤ attempt.instant := by
            obtain ⟨other, mem, same⟩ := mem_streak ((counted_sublist earlier).subset member)
            exact same ▸ latest other mem
          refine ⟨List.pairwise_cons.mpr ⟨newest, sorted⟩, fun instant member => ?_⟩
          rcases List.mem_cons.mp member with rfl | old
          · have openingMember := List.mem_of_getLast? former
            exact ⟨newest _ openingMember, ((isOpen_iff former).mp inside).2⟩
          · exact held instant old
      next outside =>
        cases opened
        rw [if_neg outside]
        refine ⟨List.pairwise_singleton _ _, fun instant member => ?_⟩
        cases List.mem_singleton.mp member
        exact ⟨le_rfl, later _⟩
    | succeeded => rw [verdict] at opened; cases opened
    | refused => rw [verdict] at opened; exact inductionHypothesis opened
    | undecided => rw [verdict] at opened; exact inductionHypothesis opened

/-! ## Failures at one instant -/

omit attempt earlier log in
theorem counted_replicate {count : ℕ} (fits : count ≤ limit)
    (later : ∀ instant : Time, instant < instant + length) :
    counted limit length (List.replicate count ⟨now, .failed⟩) = List.replicate count now := by
  induction count with
  | zero => rfl
  | succ count inductionHypothesis =>
    have rest := inductionHypothesis (by omega)
    rw [List.replicate_succ, List.replicate_succ, counted, rest]
    cases count with
    | zero => simp [isOpen]
    | succ count =>
      have last : (List.replicate (count + 1) now).getLast? = some now := by
        simp [List.getLast?_replicate]
      have opened : isOpen limit length (List.replicate (count + 1) now) now := by
        rw [isOpen_iff last, List.length_replicate]
        exact ⟨by omega, later now⟩
      simp only [opened, if_true]

theorem isLocked_replicate {count : ℕ} (positive : 0 < limit)
    (later : ∀ instant : Time, instant < instant + length) :
    isLocked limit length (List.replicate count now) now ↔ limit ≤ count := by
  cases count with
  | zero => simp [isLocked, positive.ne']
  | succ count =>
    rw [isLocked_iff List.head?_replicate, List.length_replicate]
    exact and_iff_left (later now)

variable [AddRightMono Time]

/-- A lock stands for `limit` failures within one length, the last of them recent and none of them
before a success. -/
theorem Lawful.locked_streak (lawful : Lawful limit length log) (positive : 0 < limit)
    (later : ∀ instant : Time, instant < instant + length)
    (locked : isLocked limit length (counted limit length log) now) :
    ∃ failures : List Time, failures.Sublist (streak log) ∧ failures.length = limit ∧
      (∀ first ∈ failures, ∀ second ∈ failures, second < first + length) ∧
      ∀ last, failures.head? = some last → now < last + length := by
  simp only [isLocked, Bool.and_eq_true, decide_eq_true_eq] at locked
  have full : (counted limit length log).length = limit :=
    (counted_length_le positive log).antisymm locked.1
  refine ⟨counted limit length log, counted_sublist log, full, ?_, fun last latest => ?_⟩
  · intro first firstMember second secondMember
    cases opened : (counted limit length log).getLast? with
    | none => rw [List.getLast?_eq_none_iff.mp opened] at firstMember; cases firstMember
    | some opening =>
      have held := (lawful.span later opened).2
      exact (held second secondMember).2.trans_le
        (add_le_add_left (held first firstMember).1 length)
  · simpa [latest] using locked.2

/-! ## Failures in an interval -/

section
variable {start : Time}

/-- No success falls in the interval. -/
def Quiet (start length : Time) (log : List (Attempt Time)) : Prop :=
  ∀ attempt ∈ log, start ≤ attempt.instant → attempt.instant < start + length →
    attempt.verdict ≠ .succeeded

/-- How many failures fall in the interval. -/
def failures (start length : Time) (log : List (Attempt Time)) : ℕ :=
  log.countP (failedWithin start length)

omit [AddRightMono Time] in
theorem failures_cons_le : failures start length (attempt :: earlier) ≤
    failures start length earlier + 1 := by
  unfold failures
  rw [List.countP_cons]
  split <;> omega

omit [AddRightMono Time] in
theorem failures_cons_of_not (outside : ¬ failedWithin start length attempt) :
    failures start length (attempt :: earlier) = failures start length earlier := by
  simp [failures, outside]

omit [AddRightMono Time] in
theorem failures_eq_zero (before : ∀ attempt ∈ log, attempt.instant < start) :
    failures start length log = 0 := by
  unfold failures
  rw [List.countP_eq_zero]
  intro attempt member
  simp [failedWithin, before attempt member]

/-- How the failures of the interval are spread over windows as long as it lasts: those outside the
latest window lie in one that opened before the interval and did not fill up. -/
structure Spread (limit : ℕ) (start length : Time) (log : List (Attempt Time)) : Prop where
  closed : (counted limit length log).getLast? = none → failures start length log = 0
  stale : ∀ last, (counted limit length log).head? = some last → last < start →
    failures start length log = 0
  straddling : ∀ opening, (counted limit length log).getLast? = some opening → opening < start →
    failures start length log ≤ (counted limit length log).length - 1
  inside : ∀ opening, (counted limit length log).getLast? = some opening → start ≤ opening →
    failures start length log ≤ (counted limit length log).length + (limit - 2)

omit [AddRightMono Time] in
theorem Spread.of_zero (none : failures start length log = 0) : Spread limit start length log := by
  constructor <;> intros <;> omega

/-- A window that opens within the interval finds few failures before it. -/
theorem Spread.few (spread : Spread limit start length earlier)
    (lawful : Lawful limit length earlier) (atLeast : 2 ≤ limit)
    (later : ∀ instant : Time, instant < instant + length)
    (outside : ¬ isOpen limit length (counted limit length earlier) now)
    (unlocked : ¬ isLocked limit length (counted limit length earlier) now)
    (inTime : now < start + length) : failures start length earlier ≤ limit - 2 := by
  cases opened : (counted limit length earlier).getLast? with
  | none => rw [spread.closed opened]; exact Nat.zero_le _
  | some opening =>
    obtain ⟨last, latest⟩ : ∃ last, (counted limit length earlier).head? = some last := by
      cases empty : counted limit length earlier with
      | nil => rw [empty] at opened; cases opened
      | cons last => exact ⟨last, rfl⟩
    have order : opening ≤ last :=
      ((lawful.span later opened).2 last (List.mem_of_mem_head? latest)).1
    rw [isOpen_iff opened, not_and, not_lt] at outside
    rw [isLocked_iff latest, not_and, not_lt] at unlocked
    rcases lt_or_ge (counted limit length earlier).length limit with unfilled | full
    · have past : opening + length ≤ now := outside unfilled
      have before : opening < start := by
        by_contra inside
        exact ((add_le_add_left (not_lt.mp inside) length).trans past).not_gt inTime
      have counted := spread.straddling opening opened before
      omega
    · have past : last + length ≤ now := unlocked full
      have before : last < start := by
        by_contra inside
        exact ((add_le_add_left (not_lt.mp inside) length).trans past).not_gt inTime
      rw [spread.stale last latest before]
      exact Nat.zero_le _

omit [AddRightMono Time] in
theorem Spread.congr (spread : Spread limit start length earlier)
    (sameWindow : counted limit length (attempt :: earlier) = counted limit length earlier)
    (sameFailures : failures start length (attempt :: earlier) = failures start length earlier) :
    Spread limit start length (attempt :: earlier) := by
  constructor <;> rw [sameWindow, sameFailures]
  · exact spread.closed
  · exact spread.stale
  · exact spread.straddling
  · exact spread.inside

/-- A failure within the interval. -/
theorem Spread.fail (spread : Spread limit start length earlier)
    (lawful : Lawful limit length earlier) (atLeast : 2 ≤ limit)
    (later : ∀ instant : Time, instant < instant + length)
    (failed : attempt.verdict = .failed)
    (unlocked : ¬ isLocked limit length (counted limit length earlier) attempt.instant)
    (within : start ≤ attempt.instant) (inTime : attempt.instant < start + length) :
    Spread limit start length (attempt :: earlier) := by
  have step : failures start length (attempt :: earlier) ≤ failures start length earlier + 1 :=
    failures_cons_le
  -- the failure joins the open window or opens the next one
  by_cases inside : isOpen limit length (counted limit length earlier) attempt.instant
  · have same : counted limit length (attempt :: earlier) =
        attempt.instant :: counted limit length earlier := by
      simp [counted, failed, inside]
    cases former : (counted limit length earlier).getLast? with
    | none => simp [isOpen, former] at inside
    | some first =>
      have some : 0 < (counted limit length earlier).length :=
        List.length_pos_of_mem (List.mem_of_getLast? former)
      constructor <;> rw [same]
      · simp
      · rintro _ ⟨⟩ before
        exact absurd within before.not_ge
      · intro opening opened before
        rw [List.getLast?_cons, former] at opened
        cases opened
        have counted := spread.straddling _ former before
        simp only [List.length_cons]
        omega
      · intro opening opened after
        rw [List.getLast?_cons, former] at opened
        cases opened
        have counted := spread.inside _ former after
        simp only [List.length_cons]
        omega
  · have same : counted limit length (attempt :: earlier) = [attempt.instant] := by
      simp [counted, failed, inside]
    have few := spread.few lawful atLeast later inside unlocked inTime
    constructor <;> rw [same]
    · simp
    · rintro _ ⟨⟩ before
      exact absurd within before.not_ge
    · rintro _ ⟨⟩ before
      exact absurd within before.not_ge
    · rintro _ ⟨⟩ _
      simp only [List.length_singleton]
      omega

theorem Lawful.spread (lawful : Lawful limit length log) (atLeast : 2 ≤ limit)
    (later : ∀ instant : Time, instant < instant + length) (quiet : Quiet start length log)
    (inTime : ∀ attempt ∈ log, attempt.instant < start + length) :
    Spread limit start length log := by
  induction lawful with
  | nil => exact .of_zero rfl
  | @cons attempt earlier lawful latest gate inductionHypothesis =>
    have spread := inductionHypothesis (fun other member => quiet other (List.mem_cons_of_mem _ member))
      fun other member => inTime other (List.mem_cons_of_mem _ member)
    have now := inTime attempt List.mem_cons_self
    rcases lt_or_ge attempt.instant start with before | within
    · -- the interval has not begun
      refine .of_zero (failures_eq_zero fun other member => ?_)
      rcases List.mem_cons.mp member with rfl | old
      · exact before
      · exact (latest other old).trans_lt before
    cases verdict : attempt.verdict with
    | failed =>
      have unlocked := mt gate.mpr (by rw [verdict]; exact nofun)
      exact spread.fail lawful atLeast later verdict unlocked within now
    | succeeded => exact absurd verdict (quiet attempt List.mem_cons_self within now)
    | refused =>
      exact spread.congr (by simp [counted, verdict])
        (failures_cons_of_not (by simp [failedWithin, verdict]))
    | undecided =>
      exact spread.congr (by simp [counted, verdict])
        (failures_cons_of_not (by simp [failedWithin, verdict]))

/-- At most `2 * limit - 2` failures fall in an interval of one length without a success. -/
theorem Lawful.failures_le (lawful : Lawful limit length log) (atLeast : 2 ≤ limit)
    (later : ∀ instant : Time, instant < instant + length) (quiet : Quiet start length log) :
    failures start length log ≤ 2 * limit - 2 := by
  have allLawful := lawful
  induction lawful with
  | nil => exact Nat.zero_le _
  | @cons attempt earlier lawful latest gate inductionHypothesis =>
    have rest := inductionHypothesis (fun other member => quiet other (List.mem_cons_of_mem _ member))
      lawful
    by_cases past : start + length ≤ attempt.instant
    · rw [failures_cons_of_not (by simp [failedWithin, past])]
      exact rest
    have inTime : ∀ other ∈ attempt :: earlier, other.instant < start + length := by
      intro other member
      rcases List.mem_cons.mp member with rfl | old
      · exact not_le.mp past
      · exact (latest other old).trans_lt (not_le.mp past)
    have spread := allLawful.spread atLeast later quiet inTime
    have bounded : (counted limit length (attempt :: earlier)).length ≤ limit :=
      counted_length_le (by omega) _
    cases opened : (counted limit length (attempt :: earlier)).getLast? with
    | none => rw [spread.closed opened]; exact Nat.zero_le _
    | some opening =>
      rcases lt_or_ge opening start with before | after
      · have counted := spread.straddling opening opened before
        omega
      · have counted := spread.inside opening opened after
        omega

end

end FailureWindow

end EnterpriseAuth.Effects
