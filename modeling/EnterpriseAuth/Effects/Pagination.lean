import Mathlib.Data.List.Sort
import Mathlib.Data.List.Nodup
import Mathlib.Order.Lattice

/-!
# Pages of an ordered query

A query that orders its rows by a key returns one of the arrangements in which the keys ascend; rows
under one key may come in any order, and in another one the next time.  A page is a piece of such an
arrangement.  Pages of different queries fit together exactly when no page begins between two rows
that the key does not tell apart.
-/

namespace EnterpriseAuth.Effects

variable {Row Key : Type} [LinearOrder Key]

/-- One of the orders in which a query by the key may return the rows. -/
structure Arranges (key : Row → Key) (rows answer : List Row) : Prop where
  perm : answer.Perm rows
  ascends : answer.Pairwise fun first second => key first ≤ key second

/-- Some rows have equal keys, one of them belongs before the boundary and another one behind it. -/
def SplitsTie (key : Row → Key) (rows : List Row) (boundary : ℕ) : Prop :=
  ∃ row ∈ rows, rows.countP (key · < key row) < boundary ∧ boundary < rows.countP (key · ≤ key row)

def page (answer : List Row) (limit offset : ℕ) : List Row := (answer.drop offset).take limit

/-- The pages from the offset on, one after the other, up to the first empty one. -/
inductive Turns (pages : ℕ → List Row) : ℕ → List Row → Prop
  | done {number : ℕ} (empty : pages number = []) : Turns pages number []
  | more {number : ℕ} {rest : List Row} (filled : pages number ≠ [])
    (others : Turns pages (number + 1) rest) : Turns pages number (pages number ++ rest)

/-- Whatever order the rows of each query come in, turning the pages shows each row once. -/
def PagesOnce (key : Row → Key) (rows : List Row) (limit : ℕ) : Prop :=
  ∀ answers : ℕ → List Row, (∀ number, Arranges key rows (answers number)) →
    ∃ shown, Turns (fun number => page (answers number) limit (number * limit)) 0 shown ∧
      shown.Perm rows

variable {key : Row → Key} {rows answer other : List Row} {boundary limit : ℕ} {row : Row}

/-! ## What is in front of a boundary -/

theorem Arranges.across (arranges : Arranges key rows answer) {front behind : Row}
    (inFront : front ∈ answer.take boundary) (isBehind : behind ∈ answer.drop boundary) :
    key front ≤ key behind := by
  have ascends := arranges.ascends
  rw [← List.take_append_drop boundary answer, List.pairwise_append] at ascends
  exact ascends.2.2 front inFront behind isBehind

theorem Arranges.countP_eq (arranges : Arranges key rows answer) (condition : Row → Bool)
    (boundary : ℕ) : rows.countP condition =
      (answer.take boundary).countP condition + (answer.drop boundary).countP condition := by
  rw [← arranges.perm.countP_eq, ← List.countP_append, List.take_append_drop]

/-- Fewer rows than the boundary are smaller than one in front of it. -/
theorem Arranges.lt_of_mem_take (arranges : Arranges key rows answer)
    (inFront : row ∈ answer.take boundary) : rows.countP (key · < key row) < boundary := by
  have behind : (answer.drop boundary).countP (key · < key row) = 0 := by
    rw [List.countP_eq_zero]
    intro other isBehind
    simpa using arranges.across inFront isBehind
  have front : (answer.take boundary).countP (key · < key row) < (answer.take boundary).length := by
    apply lt_of_le_of_ne List.countP_le_length
    intro all
    have itself := List.countP_eq_length.mp all row inFront
    simp at itself
  have length := List.length_take_le boundary answer
  rw [arranges.countP_eq _ boundary]
  omega

/-- More rows than the boundary are at most as great as one behind it. -/
theorem Arranges.lt_of_mem_drop (arranges : Arranges key rows answer)
    (isBehind : row ∈ answer.drop boundary) : boundary < rows.countP (key · ≤ key row) := by
  have front : (answer.take boundary).countP (key · ≤ key row) = (answer.take boundary).length := by
    rw [List.countP_eq_length]
    intro other inFront
    simpa using arranges.across inFront isBehind
  have behind : 0 < (answer.drop boundary).countP (key · ≤ key row) := by
    rw [List.countP_pos_iff]
    exact ⟨row, isBehind, by simp⟩
  have within := List.length_pos_of_mem isBehind
  rw [List.length_drop] at within
  rw [arranges.countP_eq _ boundary, front, List.length_take]
  omega

/-- Where no tie is split, the rows in front of a boundary are the same in all arrangements. -/
theorem Arranges.take_eq_filter (arranges : Arranges key rows answer)
    (whole : ¬ SplitsTie key rows boundary) :
    answer.take boundary = answer.filter fun row => rows.countP (key · ≤ key row) ≤ boundary := by
  have front : (answer.take boundary).filter
      (fun row => rows.countP (key · ≤ key row) ≤ boundary) = answer.take boundary := by
    rw [List.filter_eq_self]
    intro row inFront
    have less := arranges.lt_of_mem_take inFront
    have member := arranges.perm.mem_iff.mp (List.mem_of_mem_take inFront)
    simpa using not_lt.mp fun more => whole ⟨row, member, less, more⟩
  have behind : (answer.drop boundary).filter
      (fun row => rows.countP (key · ≤ key row) ≤ boundary) = [] := by
    rw [List.filter_eq_nil_iff]
    intro row isBehind
    simpa using arranges.lt_of_mem_drop isBehind
  conv_rhs => rw [← List.take_append_drop boundary answer, List.filter_append, front, behind]
  rw [List.append_nil]

theorem Arranges.perm_take (arranges : Arranges key rows answer) (arrangesOther : Arranges key rows other)
    (whole : ¬ SplitsTie key rows boundary) : (answer.take boundary).Perm (other.take boundary) := by
  rw [arranges.take_eq_filter whole, arrangesOther.take_eq_filter whole]
  exact (arranges.perm.trans arrangesOther.perm.symm).filter _

/-- Where no tie is split at its ends, a page holds the same rows in all arrangements. -/
theorem Arranges.perm_page (arranges : Arranges key rows answer) (arrangesOther : Arranges key rows other)
    {number : ℕ} (start : ¬ SplitsTie key rows (number * limit))
    (stop : ¬ SplitsTie key rows ((number + 1) * limit)) :
    (page answer limit (number * limit)).Perm (page other limit (number * limit)) := by
  have pieces (list : List Row) : list.take ((number + 1) * limit) =
      list.take (number * limit) ++ page list limit (number * limit) := by
    rw [Nat.succ_mul, List.take_add, page]
  have both := arranges.perm_take arrangesOther stop
  rw [pieces, pieces] at both
  have front := (arranges.perm_take arrangesOther start).append_right
    (page other limit (number * limit))
  exact (List.perm_append_left_iff _).mp (both.trans front.symm)

/-! ## Turning pages -/

variable {pages others : ℕ → List Row} {number : ℕ} {shown : List Row}

/-- The pages of one arrangement show it from their offset on. -/
theorem turns_drop (positive : 0 < limit) (answer : List Row) (number : ℕ) :
    Turns (fun number => page answer limit (number * limit)) number
      (answer.drop (number * limit)) := by
  induction left : answer.length - number * limit using Nat.strong_induction_on generalizing number with
  | _ remaining inductionHypothesis =>
    have next : (number + 1) * limit = number * limit + limit := Nat.succ_mul number limit
    by_cases more : number * limit < answer.length
    · have rest := inductionHypothesis (answer.length - (number + 1) * limit) (by omega)
        (number + 1) rfl
      have filled : page answer limit (number * limit) ≠ [] := by
        apply List.ne_nil_of_length_pos
        simp only [page, List.length_take, List.length_drop]
        omega
      have pieces : page answer limit (number * limit) ++ answer.drop ((number + 1) * limit) =
          answer.drop (number * limit) := by
        rw [next, ← List.drop_drop, page, List.take_append_drop]
      have turned : Turns (fun number => page answer limit (number * limit)) number
          (page answer limit (number * limit) ++ answer.drop ((number + 1) * limit)) :=
        .more filled rest
      rwa [pieces] at turned
    · have nothing : answer.drop (number * limit) = [] := List.drop_eq_nil_of_le (not_lt.mp more)
      rw [nothing]
      exact .done (by simp [page, nothing])

/-- Pages with the same rows are turned to the same rows. -/
theorem Turns.congr (turns : Turns pages number shown)
    (same : ∀ number, (others number).Perm (pages number)) :
    ∃ shownOther, Turns others number shownOther ∧ shownOther.Perm shown := by
  induction turns with
  | done empty => exact ⟨[], .done (List.perm_nil.mp (empty ▸ same _)), .refl _⟩
  | @more number rest filled _ inductionHypothesis =>
    obtain ⟨restOther, turns, perm⟩ := inductionHypothesis
    refine ⟨others number ++ restOther, .more (fun empty => filled ?_) turns, (same number).append perm⟩
    exact List.nil_perm.mp (empty ▸ same number)

/-- Two pages that follow each other are shown one after the other. -/
theorem Turns.sublist (turns : Turns pages number shown) {later : ℕ} (order : number ≤ later)
    (filled : ∀ between, between ≤ later → pages between ≠ []) :
    (pages later ++ pages (later + 1)).Sublist shown := by
  induction turns with
  | @done number empty => exact absurd empty (filled number order)
  | @more number rest _ others inductionHypothesis =>
    by_cases here : number = later
    · subst here
      apply List.Sublist.append_left
      cases others with
      | done empty => rw [empty]
      | more => exact List.sublist_append_left _ _
    · exact (inductionHypothesis (by omega)).trans (List.sublist_append_right _ _)

/-! ## When the pages fit together -/

theorem arranges_insertionSort (key : Row → Key) (rows : List Row) :
    Arranges key rows (rows.insertionSort fun first second => key first ≤ key second) := by
  have total : Std.Total fun first second : Row => key first ≤ key second :=
    ⟨fun first second => le_total (key first) (key second)⟩
  have transitive : IsTrans Row fun first second => key first ≤ key second :=
    ⟨fun _ _ _ => le_trans⟩
  constructor
  · exact List.perm_insertionSort _ rows
  · exact List.pairwise_insertionSort _ rows

/-- Two neighbours with one key may also come the other way round. -/
theorem Arranges.swap {front behind : List Row} {first second : Row}
    (arranges : Arranges key rows (front ++ first :: second :: behind))
    (same : key first = key second) : Arranges key rows (front ++ second :: first :: behind) := by
  constructor
  · exact ((List.Perm.swap first second behind).append_left front).trans arranges.perm
  · have ascends := arranges.ascends
    simp only [List.pairwise_append, List.pairwise_cons, List.mem_cons, same] at ascends ⊢
    grind

/-- The last row in front of a boundary is at least as great as one with fewer rows before it. -/
theorem Arranges.le_last (arranges : Arranges key rows answer) {before : ℕ}
    (less : rows.countP (key · < key row) < before + 1) (short : before < answer.length) :
    key row ≤ key answer[before] := by
  by_contra smaller
  have front : (answer.take (before + 1)).countP (key · < key row) =
      (answer.take (before + 1)).length := by
    rw [List.countP_eq_length]
    intro other inFront
    obtain ⟨index, bound, rfl⟩ := List.mem_take_iff_getElem.mp inFront
    have order : key answer[index] ≤ key answer[before] := by
      obtain rfl | earlier := (show index ≤ before by omega).eq_or_lt
      · exact le_rfl
      · exact List.pairwise_iff_getElem.mp arranges.ascends _ _ _ _ earlier
    simpa using order.trans_lt (not_le.mp smaller)
  rw [arranges.countP_eq _ (before + 1), front, List.length_take] at less
  omega

/-- The first row behind a boundary is at most as great as one with more rows up to it. -/
theorem Arranges.first_le (arranges : Arranges key rows answer)
    (more : boundary < rows.countP (key · ≤ key row)) (short : boundary < answer.length) :
    key answer[boundary] ≤ key row := by
  by_contra greater
  have behind : (answer.drop boundary).countP (key · ≤ key row) = 0 := by
    rw [List.countP_eq_zero]
    intro other isBehind
    obtain ⟨index, bound, rfl⟩ := List.mem_drop_iff_getElem.mp isBehind
    have order : key answer[boundary] ≤ key answer[boundary + index] := by
      obtain same | later := (show boundary ≤ boundary + index by omega).eq_or_lt
      · simp only [← same, le_refl]
      · exact List.pairwise_iff_getElem.mp arranges.ascends _ _ _ _ later
    simpa using (not_le.mp greater).trans_le order
  have front := List.countP_le_length (p := (key · ≤ key row)) (l := answer.take boundary)
  rw [arranges.countP_eq _ boundary, behind] at more
  rw [List.length_take] at front
  omega

/-- At a split tie the rows on the two sides of the boundary have one key. -/
theorem Arranges.neighbours (arranges : Arranges key rows answer)
    (split : SplitsTie key rows boundary) : ∃ front first second behind,
      answer = front ++ first :: second :: behind ∧ front.length + 1 = boundary ∧
        key first = key second := by
  obtain ⟨row, -, less, more⟩ := split
  have short : boundary < answer.length := by
    rw [arranges.perm.length_eq]
    exact more.trans_le List.countP_le_length
  obtain ⟨before, rfl⟩ : ∃ before, boundary = before + 1 :=
    Nat.exists_eq_succ_of_ne_zero (by omega)
  have least := arranges.le_last less (by omega)
  have greatest := arranges.first_le more short
  have order : key answer[before] ≤ key answer[before + 1] :=
    List.pairwise_iff_getElem.mp arranges.ascends _ _ _ _ (Nat.lt_succ_self before)
  refine ⟨answer.take before, answer[before], answer[before + 1], answer.drop (before + 2), ?_, ?_,
    le_antisymm order (greatest.trans least)⟩
  · rw [← List.drop_eq_getElem_cons, ← List.drop_eq_getElem_cons, List.take_append_drop]
  · rw [List.length_take]
    omega

theorem getElem?_page (answer : List Row) {limit index : ℕ} (offset : ℕ) (within : index < limit) :
    (page answer limit offset)[index]? = answer[offset + index]? := by
  simp [page, within]

/-- At a split tie one query may put a row in front of the boundary and the next one behind it. -/
theorem not_pagesOnce_of_splitsTie (nodup : rows.Nodup) (positive : 0 < limit) {number : ℕ}
    (split : SplitsTie key rows (number * limit)) : ¬ PagesOnce key rows limit := by
  intro once
  have arranges := arranges_insertionSort key rows
  obtain ⟨front, first, second, behind, sorted, length, same⟩ := arranges.neighbours split
  rw [sorted] at arranges
  obtain ⟨before, rfl⟩ : ∃ before, number = before + 1 := by
    apply Nat.exists_eq_succ_of_ne_zero
    rintro rfl
    omega
  have boundary : (before + 1) * limit = before * limit + limit := Nat.succ_mul before limit
  -- every query keeps to one arrangement, but the one behind the boundary swaps the two rows
  let one := front ++ first :: second :: behind
  let swapped := front ++ second :: first :: behind
  obtain ⟨shown, turns, perm⟩ := once (fun query => if query = before + 1 then swapped else one) (by
    intro query
    split
    · exact arranges.swap same
    · exact arranges)
  have twice := turns.sublist (Nat.zero_le before) (by
    intro between order
    have small : between * limit ≤ before * limit := Nat.mul_le_mul_right limit order
    apply List.ne_nil_of_length_pos
    simp only [page, show between ≠ before + 1 by omega, if_false, one, List.length_take,
      List.length_drop, List.length_append, List.length_cons]
    omega)
  have inFront : first ∈ page one limit (before * limit) := by
    apply List.mem_of_getElem? (i := limit - 1)
    rw [getElem?_page _ _ (by omega), show before * limit + (limit - 1) = front.length by omega]
    simp [one]
  have isBehind : first ∈ page swapped limit ((before + 1) * limit) := by
    apply List.mem_of_getElem? (i := 0)
    rw [getElem?_page _ _ positive, show (before + 1) * limit + 0 = front.length + 1 by omega]
    simp [swapped]
  have separate := (perm.nodup_iff.mpr nodup).sublist twice
  simp only [show before ≠ before + 1 by omega, if_false, if_true] at separate
  exact (List.nodup_append.mp separate).2.2 first inFront first isBehind rfl

theorem countP_key_le (key : Row → Key) (rows : List Row) (bound : Key) :
    rows.countP (key · ≤ bound) = rows.countP (key · < bound) + rows.countP (key · = bound) := by
  induction rows with
  | nil => rfl
  | cons row rows inductionHypothesis =>
    simp only [List.countP_cons, inductionHypothesis]
    rcases lt_trichotomy (key row) bound with less | same | greater
    · simp [less, less.le, less.ne]
      omega
    · simp [same]
      omega
    · simp [greater.not_ge, greater.not_gt, greater.ne']

/-- Rows with different keys may be cut anywhere. -/
theorem not_splitsTie_of_nodup (distinct : (rows.map key).Nodup) (boundary : ℕ) :
    ¬ SplitsTie key rows boundary := by
  rintro ⟨row, -, before, behind⟩
  have once : rows.countP (key · = key row) ≤ 1 := by
    have count : (rows.map key).count (key row) ≤ 1 := List.nodup_iff_count_le_one.mp distinct _
    rw [List.count, List.countP_map] at count
    have same : (fun other => key other == key row) = fun other => decide (key other = key row) := by
      funext other
      exact Bool.beq_eq_decide_eq _ _
    simpa [Function.comp_def, same] using count
  have sum := countP_key_le key rows (key row)
  omega

/-- The pages of independent queries show each row once if and only if no page begins inside a group
of rows with equal keys. -/
theorem pagesOnce_iff (nodup : rows.Nodup) (positive : 0 < limit) :
    PagesOnce key rows limit ↔ ∀ number, ¬ SplitsTie key rows (number * limit) := by
  constructor
  · intro once number split
    exact not_pagesOnce_of_splitsTie nodup positive split once
  · intro whole answers arranges
    have turns := turns_drop positive (answers 0) 0
    rw [Nat.zero_mul, List.drop_zero] at turns
    have same (number : ℕ) : (page (answers number) limit (number * limit)).Perm
        (page (answers 0) limit (number * limit)) :=
      (arranges number).perm_page (arranges 0) (whole number) (whole (number + 1))
    obtain ⟨shown, turnsOther, perm⟩ := turns.congr same
    exact ⟨shown, turnsOther, perm.trans (arranges 0).perm⟩

end EnterpriseAuth.Effects
