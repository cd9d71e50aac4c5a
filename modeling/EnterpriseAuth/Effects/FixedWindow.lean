import Mathlib.Algebra.Order.Monoid.Unbundled.Basic
import Mathlib.Data.List.Basic

/-!
# Hits counted in fixed windows

A hit that meets no window opens one of a fixed length, and all hits inside it are counted, whether
they are accepted or not.  The first `limit` hits of a window are accepted.  Logs have the latest hit
first, and so have the windows.
-/

namespace EnterpriseAuth.Effects.FixedWindow

variable {Time : Type} [LinearOrder Time]

/-- The instant lies in the half-open interval of the given length from `start` on. -/
def within [Add Time] (length start instant : Time) : Bool :=
  start ≤ instant && instant < start + length

/-- A hit at the instant joins the window. -/
def joins [Add Time] (length : Time) (window : List Time) (now : Time) : Bool :=
  window.getLast?.any fun opening => now < opening + length

/-- The hits of the latest window. -/
def window [Add Time] (length : Time) : List Time → List Time
  | [] => []
  | now :: earlier =>
    if joins length (window length earlier) now then now :: window length earlier else [now]

/-- The hits that are accepted. -/
def accepted [Add Time] (limit : ℕ) (length : Time) : List Time → List Time
  | [] => []
  | now :: earlier =>
    if (window length (now :: earlier)).length ≤ limit then now :: accepted limit length earlier
    else accepted limit length earlier

variable [Add Time] {limit : ℕ} {length start now opening : Time} {hits earlier : List Time}

theorem joins_iff (opened : (window length earlier).getLast? = some opening) :
    joins length (window length earlier) now = true ↔ now < opening + length := by
  simp [joins, opened]

theorem window_of_joins (inside : joins length (window length earlier) now = true) :
    window length (now :: earlier) = now :: window length earlier := by
  rw [window, if_pos inside]

theorem window_of_apart (outside : joins length (window length earlier) now = false) :
    window length (now :: earlier) = [now] := by
  rw [window, outside]
  rfl

theorem window_eq_nil : window length hits = [] ↔ hits = [] := by
  cases hits with
  | nil => simp [window]
  | cons now earlier =>
    rw [window]
    split <;> simp

/-- A window that a hit joins keeps its opening. -/
theorem opening_of_joins (inside : joins length (window length earlier) now = true) :
    ∃ opening, (window length earlier).getLast? = some opening ∧
      (window length (now :: earlier)).getLast? = some opening ∧ now < opening + length := by
  cases opened : (window length earlier).getLast? with
  | none => simp [joins, opened] at inside
  | some opening =>
    refine ⟨opening, rfl, ?_, (joins_iff opened).mp inside⟩
    rw [window_of_joins inside, List.getLast?_cons, opened]
    rfl

theorem window_sublist (hits : List Time) : (window length hits).Sublist hits := by
  induction hits with
  | nil => exact .slnil
  | cons now earlier inductionHypothesis =>
    rw [window]
    split
    · exact inductionHypothesis.cons_cons now
    · exact (List.nil_sublist earlier).cons_cons now

theorem accepted_sublist (hits : List Time) : (accepted limit length hits).Sublist hits := by
  induction hits with
  | nil => exact .slnil
  | cons now earlier inductionHypothesis =>
    rw [accepted]
    split
    · exact inductionHypothesis.cons_cons now
    · exact inductionHypothesis.cons now

/-! ## No false refusal -/

/-- The hits of a window lie within its length. -/
theorem window_within (ordered : hits.Pairwise (· ≥ ·))
    (later : ∀ instant : Time, instant < instant + length)
    (opened : (window length hits).getLast? = some opening) :
    ∀ instant ∈ window length hits, within length opening instant = true := by
  induction hits generalizing opening with
  | nil => cases opened
  | cons now earlier inductionHypothesis =>
    rw [List.pairwise_cons] at ordered
    cases meets : joins length (window length earlier) now with
    | false =>
      rw [window_of_apart meets] at opened ⊢
      cases opened
      simp [within, later]
    | true =>
      obtain ⟨first, former, same, before⟩ := opening_of_joins meets
      rw [same] at opened
      cases opened
      have latest : opening ≤ now :=
        ordered.1 opening ((window_sublist earlier).subset (List.mem_of_getLast? former))
      rw [window_of_joins meets, List.forall_mem_cons]
      exact ⟨by simp [within, latest, before], inductionHypothesis ordered.2 former⟩

/-- Where no interval of the length holds more than `limit` hits, all hits are accepted. -/
theorem accepted_eq_self (ordered : hits.Pairwise (· ≥ ·))
    (later : ∀ instant : Time, instant < instant + length)
    (sparse : ∀ start, hits.countP (within length start) ≤ limit) :
    accepted limit length hits = hits := by
  induction hits with
  | nil => rfl
  | cons now earlier inductionHypothesis =>
    have fits : (window length (now :: earlier)).length ≤ limit := by
      cases opened : (window length (now :: earlier)).getLast? with
      | none => simp [window_eq_nil] at opened
      | some opening =>
        have all : (window length (now :: earlier)).countP (within length opening) =
            (window length (now :: earlier)).length :=
          List.countP_eq_length.mpr (window_within ordered later opened)
        have kept : (window length (now :: earlier)).Sublist (now :: earlier) :=
          window_sublist (now :: earlier)
        have bound := kept.countP_le (p := within length opening)
        have few := sparse opening
        omega
    rw [accepted, if_pos fits,
      inductionHypothesis (List.pairwise_cons.mp ordered).2 fun start =>
        ((List.sublist_cons_self now earlier).countP_le).trans (sparse start)]

/-! ## The burst bound -/

/-- A bound on the hits that an interval from `start` on can have had accepted, by the opening of the
latest window and its size.  The opening of a window that is older than the interval is not in it. -/
def capacity (limit : ℕ) (length start opening : Time) (size : ℕ) : ℕ :=
  if opening < start then min limit size
  else if opening < start + length then limit + min limit size
  else 2 * limit

theorem capacity_le (limit : ℕ) (length start opening : Time) (size : ℕ) :
    capacity limit length start opening size ≤ 2 * limit := by
  unfold capacity
  split
  · omega
  · split <;> omega

/-- A hit that joins the window uses up what it adds to the capacity. -/
theorem capacity_joined (latest : opening ≤ now) {inside size : ℕ}
    (bound : inside < capacity limit length start opening size) :
    inside + (if size + 1 ≤ limit ∧ within length start now = true then 1 else 0) <
      capacity limit length start opening (size + 1) := by
  unfold capacity at bound ⊢
  by_cases before : opening < start
  · simp only [before, if_true] at bound ⊢
    split <;> omega
  · by_cases during : opening < start + length
    · simp only [before, during, if_true, if_false] at bound ⊢
      split <;> omega
    · have outside : within length start now = false := by
        have ended : start + length ≤ now := (not_lt.mp during).trans latest
        simp [within, ended]
      simp only [before, during, outside, if_false] at bound ⊢
      simpa using bound

/-- The hit that opens a window. -/
theorem capacity_opened [AddRightReflectLT Time] (positive : 1 ≤ limit)
    (apart : opening + length ≤ now) {inside size : ℕ}
    (bound : inside < capacity limit length start opening size)
    (none : now < start → inside = 0) :
    inside + (if within length start now = true then 1 else 0) <
      capacity limit length start now 1 := by
  have most := capacity_le limit length start opening size
  unfold capacity
  by_cases before : now < start
  · have outside : within length start now = false := by simp [within, before]
    simp only [before, outside, none before, if_true, Bool.false_eq_true, if_false]
    omega
  · by_cases during : now < start + length
    · have older : opening < start := lt_of_add_lt_add_right (apart.trans_lt during)
      simp only [capacity, older, if_true] at bound
      simp only [before, during, if_true, if_false]
      split <;> omega
    · have outside : within length start now = false := by simp [within, during]
      simp only [before, during, outside, Bool.false_eq_true, if_false]
      omega

theorem countP_accepted (now : Time) (earlier : List Time) :
    (accepted limit length (now :: earlier)).countP (within length start) =
      (accepted limit length earlier).countP (within length start) +
        if (window length (now :: earlier)).length ≤ limit ∧ within length start now = true then 1
        else 0 := by
  rw [accepted]
  by_cases fits : (window length (now :: earlier)).length ≤ limit
  · simp [fits, List.countP_cons]
  · simp [fits]

/-- All hits come before the interval. -/
theorem countP_accepted_eq_zero (before : ∀ instant ∈ hits, instant < start) :
    (accepted limit length hits).countP (within length start) = 0 := by
  refine List.countP_eq_zero.mpr fun instant member => ?_
  have early := before instant ((accepted_sublist hits).subset member)
  simp [within, early]

theorem countP_lt_capacity [AddRightReflectLT Time] (positive : 1 ≤ limit)
    (ordered : hits.Pairwise (· ≥ ·)) (opened : (window length hits).getLast? = some opening) :
    (accepted limit length hits).countP (within length start) <
      capacity limit length start opening (window length hits).length := by
  induction hits generalizing opening with
  | nil => cases opened
  | cons now earlier inductionHypothesis =>
    rw [List.pairwise_cons] at ordered
    rw [countP_accepted]
    cases meets : joins length (window length earlier) now with
    | true =>
      obtain ⟨first, former, same, -⟩ := opening_of_joins meets
      rw [same] at opened
      cases opened
      have latest : opening ≤ now :=
        ordered.1 opening ((window_sublist earlier).subset (List.mem_of_getLast? former))
      rw [window_of_joins meets, List.length_cons]
      exact capacity_joined latest (inductionHypothesis ordered.2 former)
    | false =>
      rw [window_of_apart meets] at opened ⊢
      cases opened
      rw [List.length_singleton]
      simp only [positive, true_and]
      cases former : (window length earlier).getLast? with
      | none =>
        -- the first hit of the log
        have first : earlier = [] := by simpa [window_eq_nil] using former
        subst first
        simp only [accepted, List.countP_nil, capacity, within]
        grind
      | some first =>
        have apart : first + length ≤ now := by
          rw [← not_lt, ← joins_iff former, meets]
          exact Bool.false_ne_true
        refine capacity_opened positive apart (inductionHypothesis ordered.2 former) fun before => ?_
        exact countP_accepted_eq_zero fun instant member => (ordered.1 instant member).trans_lt before

/-- An interval of the length of a window has at most `2 * limit - 1` hits accepted. -/
theorem countP_accepted_le [AddRightReflectLT Time] (positive : 1 ≤ limit)
    (ordered : hits.Pairwise (· ≥ ·)) :
    (accepted limit length hits).countP (within length start) ≤ 2 * limit - 1 := by
  cases opened : (window length hits).getLast? with
  | none =>
    have empty : hits = [] := by simpa [window_eq_nil] using opened
    simp [empty, accepted]
  | some opening =>
    have bound : (accepted limit length hits).countP (within length start) <
        capacity limit length start opening (window length hits).length :=
      countP_lt_capacity positive ordered opened
    have most := capacity_le limit length start opening (window length hits).length
    omega

end EnterpriseAuth.Effects.FixedWindow
