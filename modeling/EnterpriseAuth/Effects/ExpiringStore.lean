import Mathlib.Order.Lattice

/-!
# Key-value stores whose entries lapse

An `ExpiringStore` maps a key to a value and the instant at which the entry stops existing.  An
entry is never removed by the passing of time alone: `lookup` takes the instant at which the store
is read and ignores the entries that have lapsed by then.  An entry written at `t` with a lifetime
`n` therefore exists exactly during `[t, t + n)`.
-/

namespace EnterpriseAuth.Effects

structure Entry (Value Time : Type) where
  value : Value
  /-- The first instant at which the entry no longer exists, if there is one. -/
  deadline : Option Time

def ExpiringStore (Key Value Time : Type) : Type :=
  Key → Option (Entry Value Time)

namespace ExpiringStore

variable {Key Value Time : Type} [LinearOrder Time]

def empty : ExpiringStore Key Value Time := fun _ => none

instance : EmptyCollection (ExpiringStore Key Value Time) := ⟨empty⟩

def lookup (store : ExpiringStore Key Value Time) (now : Time) (key : Key) : Option Value :=
  match store key with
  | none => none
  | some ⟨value, none⟩ => some value
  | some ⟨value, some deadline⟩ => if now < deadline then some value else none

/-- The deadline of an entry that exists now; an absent or lapsed entry has none. -/
def deadlineAt (store : ExpiringStore Key Value Time) (now : Time) (key : Key) : Option Time :=
  match store key with
  | some ⟨_, some deadline⟩ => if now < deadline then some deadline else none
  | _ => none

@[simp] theorem lookup_empty (now : Time) (key : Key) :
    (∅ : ExpiringStore Key Value Time).lookup now key = none := rfl

theorem lookup_congr {store other : ExpiringStore Key Value Time} {key : Key}
    (same : other key = store key) (now : Time) : other.lookup now key = store.lookup now key := by
  simp only [lookup, same]

/-- A store that has the entry too holds the value too. -/
theorem lookup_of_entry {store other : ExpiringStore Key Value Time} {key : Key} {now : Time}
    {value : Value} (kept : ∀ entry, other key = some entry → store key = some entry)
    (found : other.lookup now key = some value) : store.lookup now key = some value := by
  cases stored : other key with
  | none => simp [lookup, stored] at found
  | some entry =>
    rwa [lookup_congr (stored.trans (kept entry stored).symm)] at found

/-- The entry of a value that exists. -/
theorem lookup_entry {store : ExpiringStore Key Value Time} {now : Time} {key : Key} {value : Value}
    (found : store.lookup now key = some value) :
    ∃ entry, store key = some entry ∧ entry.value = value ∧
      ∀ deadline, entry.deadline = some deadline → now < deadline := by
  unfold lookup at found
  split at found
  · cases found
  next stored =>
    cases found
    exact ⟨_, stored, rfl, nofun⟩
  next deadline stored =>
    split at found
    next before =>
      cases found
      refine ⟨_, stored, rfl, fun other same => ?_⟩
      cases same
      exact before
    · cases found

/-- What exists later existed before: time passing only takes entries away. -/
theorem lookup_earlier {store : ExpiringStore Key Value Time} {now later : Time} {key : Key}
    {value : Value} (order : now ≤ later) (found : store.lookup later key = some value) :
    store.lookup now key = some value := by
  unfold lookup at found ⊢
  split at found
  · cases found
  · exact found
  · split at found
    · rename_i before
      rw [if_pos (order.trans_lt before)]
      exact found
    · cases found

theorem lookup_lapsed {store : ExpiringStore Key Value Time} {now later : Time} {key : Key}
    (order : now ≤ later) (absent : store.lookup now key = none) :
    store.lookup later key = none := by
  cases found : store.lookup later key with
  | none => rfl
  | some value => rw [lookup_earlier order found] at absent; cases absent

/-- The store without the entries under some keys. -/
def losing (store : ExpiringStore Key Value Time) (lost : Key → Bool) :
    ExpiringStore Key Value Time :=
  fun key => if lost key then none else store key

@[simp] theorem lookup_losing (store : ExpiringStore Key Value Time) (lost : Key → Bool)
    (now : Time) (key : Key) :
    (store.losing lost).lookup now key = if lost key then none else store.lookup now key := by
  simp only [lookup, losing]
  by_cases isLost : lost key = true <;> simp [isLost]

section
variable [DecidableEq Key]

def put (store : ExpiringStore Key Value Time) (key : Key) (entry : Entry Value Time) :
    ExpiringStore Key Value Time :=
  fun other => if other = key then some entry else store other

def remove (store : ExpiringStore Key Value Time) (key : Key) : ExpiringStore Key Value Time :=
  fun other => if other = key then none else store other

theorem lookup_put_same (store : ExpiringStore Key Value Time) (now deadline : Time) (key : Key)
    (value : Value) :
    (store.put key ⟨value, some deadline⟩).lookup now key =
      if now < deadline then some value else none := by
  simp [lookup, put]

@[simp] theorem lookup_put_other (store : ExpiringStore Key Value Time) (now : Time)
    {key other : Key} (entry : Entry Value Time) (different : other ≠ key) :
    (store.put key entry).lookup now other = store.lookup now other := by
  simp [lookup, put, different]

/-- A value written under the deadline that its predecessor still has is there at once. -/
theorem lookup_put_deadlineAt {store : ExpiringStore Key Value Time} {now : Time} {key : Key}
    {value : Value} (next : Value) (found : store.lookup now key = some value) :
    (store.put key ⟨next, store.deadlineAt now key⟩).lookup now key = some next := by
  unfold lookup at found
  cases stored : store key with
  | none => rw [stored] at found; cases found
  | some entry =>
    obtain ⟨_, deadline⟩ := entry
    cases deadline with
    | none => simp [lookup, put, deadlineAt, stored]
    | some deadline =>
      have live : now < deadline := by
        by_contra lapsed
        simp [stored, lapsed] at found
      simp [lookup, put, deadlineAt, stored, live]

omit [LinearOrder Time] in
@[simp] theorem put_put (store : ExpiringStore Key Value Time) (key : Key)
    (first second : Entry Value Time) : (store.put key first).put key second = store.put key second := by
  funext other
  simp only [put]
  split <;> rfl

@[simp] theorem lookup_remove_same (store : ExpiringStore Key Value Time) (now : Time) (key : Key) :
    (store.remove key).lookup now key = none := by
  simp [lookup, remove]

@[simp] theorem lookup_remove_other (store : ExpiringStore Key Value Time) (now : Time)
    {key other : Key} (different : other ≠ key) :
    (store.remove key).lookup now other = store.lookup now other := by
  simp [lookup, remove, different]

end

/-! ## Entries with a guaranteed lifetime -/

/-- The entry under the key exists at every instant before `bound`. -/
def HoldsUntil (store : ExpiringStore Key Value Time) (key : Key) (bound : Time) : Prop :=
  ∀ now, now < bound → (store.lookup now key).isSome

theorem HoldsUntil.mono {store : ExpiringStore Key Value Time} {key : Key} {bound lower : Time}
    (holds : store.HoldsUntil key bound) (order : lower ≤ bound) : store.HoldsUntil key lower :=
  fun now before => holds now (before.trans_le order)

theorem HoldsUntil.congr {store other : ExpiringStore Key Value Time} {key : Key} {bound : Time}
    (holds : store.HoldsUntil key bound) (same : other key = store key) :
    other.HoldsUntil key bound := by
  intro now before
  rw [lookup_congr same]
  exact holds now before

section
variable [DecidableEq Key]

theorem holdsUntil_put (store : ExpiringStore Key Value Time) (key : Key) (value : Value)
    (deadline : Time) : (store.put key ⟨value, some deadline⟩).HoldsUntil key deadline := by
  intro now before
  rw [lookup_put_same, if_pos before]
  rfl

theorem HoldsUntil.put_other {store : ExpiringStore Key Value Time} {key other : Key} {bound : Time}
    (holds : store.HoldsUntil key bound) (entry : Entry Value Time) (different : key ≠ other) :
    (store.put other entry).HoldsUntil key bound := by
  intro now before
  rw [lookup_put_other store now entry different]
  exact holds now before

end

end ExpiringStore

end EnterpriseAuth.Effects
