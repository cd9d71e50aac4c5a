import Mathlib.Data.List.Nodup

/-!
# Tables with a unique key

A `Table key` is a list of rows together with the proof that no two rows share a key, so a lookup
by key has at most one answer and a second row under the same key cannot be built.  Every
operation is described by what a later `find` returns.
-/

namespace EnterpriseAuth.Effects

structure Table {Row Key : Type} (key : Row → Key) where
  rows : List Row
  distinct : (rows.map key).Nodup

namespace Table

variable {Row Key : Type} {key : Row → Key}

@[ext] theorem ext {first second : Table key} (equal : first.rows = second.rows) :
    first = second := by
  cases first; cases second; cases equal; rfl

def empty : Table key := ⟨[], List.nodup_nil⟩

instance : EmptyCollection (Table key) := ⟨empty⟩

variable [DecidableEq Key]

def find (table : Table key) (wanted : Key) : Option Row :=
  table.rows.find? fun row => key row = wanted

/-- Adds a row at the end, unless its key is taken. -/
def insert (table : Table key) (row : Row) : Option (Table key) :=
  if fresh : key row ∉ table.rows.map key then
    some ⟨table.rows ++ [row], by
      rw [List.map_append, List.nodup_append]
      refine ⟨table.distinct, List.nodup_singleton _, ?_⟩
      intro present member added addedMember equal
      rw [List.map_singleton, List.mem_singleton] at addedMember
      exact fresh (addedMember ▸ equal ▸ member)⟩
  else none

/-- Changes the row under one key; the change leaves the key itself alone. -/
def modify (table : Table key) (wanted : Key) (change : Row → Row)
    (keeps : ∀ row, key (change row) = key row) : Table key :=
  ⟨table.rows.map fun row => if key row = wanted then change row else row, by
    have same : (table.rows.map fun row => if key row = wanted then change row else row).map key =
        table.rows.map key := by
      rw [List.map_map]
      apply List.map_congr_left
      intro row _
      simp only [Function.comp]
      split
      · exact keeps row
      · rfl
    rw [same]
    exact table.distinct⟩

def removeWhere (table : Table key) (drop : Row → Bool) : Table key :=
  ⟨table.rows.filter fun row => !drop row, table.distinct.sublist (List.filter_sublist.map key)⟩

/-- The row takes the place of the one that is stored under its key. -/
def put (table : Table key) (row : Row) : Table key :=
  ⟨(table.removeWhere fun other => key other = key row).rows ++ [row], by
    rw [List.map_append, List.nodup_append]
    refine ⟨(table.removeWhere fun other => key other = key row).distinct, List.nodup_singleton _, ?_⟩
    intro present member added addedMember equal
    obtain ⟨other, kept, rfl⟩ := List.mem_map.mp member
    obtain rfl : added = key row := by simpa using addedMember
    simp [removeWhere, equal] at kept⟩

theorem find_mem {table : Table key} {wanted : Key} {row : Row}
    (found : table.find wanted = some row) : row ∈ table.rows :=
  List.mem_of_find?_eq_some found

theorem find_key {table : Table key} {wanted : Key} {row : Row}
    (found : table.find wanted = some row) : key row = wanted := by
  simpa using List.find?_some found

theorem find_eq_none {table : Table key} {wanted : Key} :
    table.find wanted = none ↔ wanted ∉ table.rows.map key := by
  simp [find, List.find?_eq_none]

/-- A row is what a lookup of its own key finds. -/
theorem find_of_mem {table : Table key} {row : Row} (member : row ∈ table.rows) :
    table.find (key row) = some row := by
  obtain ⟨rows, distinct⟩ := table
  simp only [find] at member ⊢
  induction rows with
  | nil => cases member
  | cons head tail inductionHypothesis =>
    rw [List.map_cons, List.nodup_cons] at distinct
    rcases List.mem_cons.mp member with rfl | later
    · simp
    · have different : key head ≠ key row := by
        intro equal
        exact distinct.1 (equal ▸ List.mem_map_of_mem later)
      rw [List.find?_cons_of_neg (by simpa using different)]
      exact inductionHypothesis distinct.2 later

@[simp] theorem find_empty (wanted : Key) : (∅ : Table key).find wanted = none := rfl

theorem insert_eq_some {table extended : Table key} {row : Row}
    (inserted : table.insert row = some extended) :
    table.find (key row) = none ∧ extended.rows = table.rows ++ [row] := by
  unfold insert at inserted
  split at inserted
  next fresh =>
    cases inserted
    exact ⟨find_eq_none.mpr fresh, rfl⟩
  next => cases inserted

theorem insert_isSome {table : Table key} {row : Row} (fresh : table.find (key row) = none) :
    ∃ extended, table.insert row = some extended := by
  unfold insert
  rw [dif_pos (find_eq_none.mp fresh)]
  exact ⟨_, rfl⟩

theorem find_insert {table extended : Table key} {row : Row}
    (inserted : table.insert row = some extended) (wanted : Key) :
    extended.find wanted = if wanted = key row then some row else table.find wanted := by
  obtain ⟨fresh, rows⟩ := insert_eq_some inserted
  unfold find at fresh ⊢
  rw [rows, List.find?_append]
  by_cases same : wanted = key row
  · subst same
    rw [fresh]
    simp
  · have other : ¬ key row = wanted := fun equal => same equal.symm
    simp [same, other]

/-- An insertion keeps the rows that are there. -/
theorem find_insert_of_found {table extended : Table key} {row stored : Row} {wanted : Key}
    (inserted : table.insert row = some extended) (found : table.find wanted = some stored) :
    extended.find wanted = some stored := by
  rw [find_insert inserted, if_neg, found]
  intro same
  rw [same, (insert_eq_some inserted).1] at found
  cases found

@[simp] theorem find_modify (table : Table key) (wanted other : Key) (change : Row → Row)
    (keeps : ∀ row, key (change row) = key row) :
    (table.modify wanted change keeps).find other =
      if other = wanted then (table.find other).map change else table.find other := by
  obtain ⟨rows, distinct⟩ := table
  simp only [find, modify]
  clear distinct
  induction rows with
  | nil => simp
  | cons head tail inductionHypothesis =>
    by_cases here : key head = other
    · subst here
      by_cases same : key head = wanted <;> simp [same, keeps]
    · have stillElsewhere : key (if key head = wanted then change head else head) ≠ other := by
        split
        · rwa [keeps]
        · exact here
      simp only [List.map_cons, List.find?_cons, here, stillElsewhere, decide_false]
      exact inductionHypothesis

theorem find_removeWhere (table : Table key) (drop : Row → Bool) (wanted : Key) :
    (table.removeWhere drop).find wanted = (table.find wanted).filter fun row => !drop row := by
  obtain ⟨rows, distinct⟩ := table
  simp only [find, removeWhere]
  induction rows with
  | nil => simp
  | cons head tail inductionHypothesis =>
    rw [List.map_cons, List.nodup_cons] at distinct
    have rest := inductionHypothesis distinct.2
    by_cases here : key head = wanted
    · cases dropped : drop head with
      | false => simp [here, dropped, Option.filter]
      | true =>
        have absent : List.find? (fun row => decide (key row = wanted)) tail = none := by
          rw [List.find?_eq_none]
          intro row member
          have different : key row ≠ wanted := fun equal =>
            distinct.1 (here ▸ equal ▸ List.mem_map_of_mem member)
          simpa using different
        simp only [here, dropped, List.filter_cons, Bool.not_true, Bool.false_eq_true, if_false,
          List.find?_cons, decide_true, Option.filter_some]
        rw [rest, absent]
        rfl
    · cases dropped : drop head <;> simp [here, dropped, rest]

theorem mem_put {table : Table key} {row other : Row} :
    other ∈ (table.put row).rows ↔ other ∈ table.rows ∧ key other ≠ key row ∨ other = row := by
  simp [put, removeWhere]

@[simp] theorem find_put (table : Table key) (row : Row) (wanted : Key) :
    (table.put row).find wanted = if wanted = key row then some row else table.find wanted := by
  by_cases same : wanted = key row
  · subst same
    rw [if_pos rfl]
    exact find_of_mem (mem_put.mpr (.inr rfl))
  · rw [if_neg same]
    cases found : table.find wanted with
    | none =>
      have absent := find_eq_none.mp found
      refine find_eq_none.mpr fun member => ?_
      obtain ⟨other, kept, rfl⟩ := List.mem_map.mp member
      rcases mem_put.mp kept with ⟨stored, -⟩ | rfl
      · exact absent (List.mem_map_of_mem stored)
      · exact same rfl
    | some stored =>
      obtain rfl := find_key found
      exact find_of_mem (mem_put.mpr (.inl ⟨find_mem found, same⟩))

end Table

end EnterpriseAuth.Effects
