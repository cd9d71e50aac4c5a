import EnterpriseAuth.Effects.FailureWindow
import EnterpriseAuth.Requests.Lockout

/-!
# Locks and windows

The two keys that the lockout keeps for a subject say about the latest window of failures what its
failures say.  A call that is guarded by the lock answers by the lock and changes the keys by its
verdict (`Attempted`), so that the keys mirror the windows after it as well.
-/

namespace EnterpriseAuth

open Effects RateLimiter FailureWindow

variable {T : Type}

section
variable [CommRing T] [LinearOrder T] (env : Environment T) (identifier : String)
  (ip : Option String)

/-- The lock of the pair exists. -/
def Server.Locked (server : Server T) : Prop :=
  (server.redis.lookup server.clock (lockoutKey env identifier ip)).isSome

/-- A call concerns the two keys of its pair only, and these by its verdict. -/
inductive Attempted (server : Server T) : Verdict → RedisStore T → Prop
  | refused (locked : server.Locked env identifier ip) : Attempted server .refused server.redis
  | undecided (unlocked : ¬ server.Locked env identifier ip) : Attempted server .undecided server.redis
  | failed (unlocked : ¬ server.Locked env identifier ip) :
    Attempted server .failed (recordedFailure env identifier ip server.clock server.redis)
  | succeeded (unlocked : ¬ server.Locked env identifier ip) :
    Attempted server .succeeded ((server.redis.remove (failcountKey env identifier ip)).remove
      (lockoutKey env identifier ip))

/-- `LOCKOUT_SECONDS` -/
abbrev lockout : T := (env.settings.lockoutSeconds : ℕ)

/-- The failures that the latest window holds. -/
def window (log : List (Attempt T)) : List T :=
  counted env.settings.maxFailedLogins (lockout env) log

/-- The two keys say about the latest window what its failures say. -/
structure Mirrors (log : List (Attempt T)) (clock : T) (store : RedisStore T) : Prop where
  lawful : Lawful env.settings.maxFailedLogins (lockout env) log
  past : ∀ attempt ∈ log, attempt.instant ≤ clock
  locked : ∀ last, (window env log).head? = some last →
    env.settings.maxFailedLogins ≤ (window env log).length →
    store (lockoutKey env identifier ip) = some ⟨.flag, some (last + lockout env)⟩
  unlocked : (window env log).length < env.settings.maxFailedLogins →
    store.lookup clock (lockoutKey env identifier ip) = none
  counting : ∀ opening, (window env log).getLast? = some opening →
    (window env log).length < env.settings.maxFailedLogins →
    store (failcountKey env identifier ip) =
      some ⟨.count (window env log).length, some (opening + lockout env)⟩
  idle : window env log = [] ∨ env.settings.maxFailedLogins ≤ (window env log).length →
    store.lookup clock (failcountKey env identifier ip) = none

end

section
variable [CommRing T] [LinearOrder T] {env : Environment T} {identifier : String} {ip : Option String}
  {log : List (Attempt T)} {clock : T} {store : RedisStore T}

theorem Mirrors.start (clock : T) (noLock : store (lockoutKey env identifier ip) = none)
    (noCount : store (failcountKey env identifier ip) = none) :
    Mirrors env identifier ip [] clock store where
  lawful := .nil
  past := nofun
  locked _ latest := nomatch latest
  unlocked _ := by simp [ExpiringStore.lookup, noLock]
  counting _ opened := nomatch opened
  idle _ := by simp [ExpiringStore.lookup, noCount]

/-- Time passes, and the other keys change. -/
theorem Mirrors.later (mirrors : Mirrors env identifier ip log clock store) {instant : T}
    {other : RedisStore T} (order : clock ≤ instant)
    (lock : other (lockoutKey env identifier ip) = store (lockoutKey env identifier ip))
    (count : other (failcountKey env identifier ip) = store (failcountKey env identifier ip)) :
    Mirrors env identifier ip log instant other where
  lawful := mirrors.lawful
  past attempt member := (mirrors.past attempt member).trans order
  locked last latest full := lock.trans (mirrors.locked last latest full)
  unlocked unfilled := by
    have absent := ExpiringStore.lookup_lapsed order (mirrors.unlocked unfilled)
    rwa [ExpiringStore.lookup, lock, ← ExpiringStore.lookup]
  counting opening opened unfilled := count.trans (mirrors.counting opening opened unfilled)
  idle closed := by
    have absent := ExpiringStore.lookup_lapsed order (mirrors.idle closed)
    rwa [ExpiringStore.lookup, count, ← ExpiringStore.lookup]

/-- The lock exists exactly while a full window locks. -/
theorem Mirrors.locked_iff (mirrors : Mirrors env identifier ip log clock store)
    (positive : 0 < env.settings.maxFailedLogins) :
    (store.lookup clock (lockoutKey env identifier ip)).isSome ↔
      isLocked env.settings.maxFailedLogins (lockout env) (window env log) clock := by
  rcases lt_or_ge (window env log).length env.settings.maxFailedLogins with unfilled | full
  · simp [mirrors.unlocked unfilled, isLocked, unfilled]
  · cases latest : (window env log).head? with
    | none =>
      rw [List.head?_eq_none_iff] at latest
      simp only [latest, List.length_nil] at full
      omega
    | some last =>
      rw [isLocked_iff latest, ExpiringStore.lookup, mirrors.locked last latest full]
      simp [full]

variable {server : Server T} {verdict : Verdict}

theorem Mirrors.cons_past (mirrors : Mirrors env identifier ip log clock store) :
    ∀ attempt ∈ ⟨clock, verdict⟩ :: log, attempt.instant ≤ clock := by
  intro attempt member
  rcases List.mem_cons.mp member with rfl | old
  · exact le_rfl
  · exact mirrors.past attempt old

/-- A call that changes neither the keys nor the window. -/
theorem Mirrors.unchanged (mirrors : Mirrors env identifier ip log clock store)
    (gate : verdict = .refused ↔
      isLocked env.settings.maxFailedLogins (lockout env) (window env log) clock)
    (same : window env (⟨clock, verdict⟩ :: log) = window env log) :
    Mirrors env identifier ip (⟨clock, verdict⟩ :: log) clock store := by
  refine ⟨.cons mirrors.lawful mirrors.past gate, mirrors.cons_past, ?_, ?_, ?_, ?_⟩
  all_goals rw [same]
  · exact mirrors.locked
  · exact mirrors.unlocked
  · exact mirrors.counting
  · exact mirrors.idle

/-- A success removes both keys and closes the window. -/
theorem Mirrors.succeed (mirrors : Mirrors env identifier ip log clock store)
    (unlocked : ¬ isLocked env.settings.maxFailedLogins (lockout env) (window env log) clock) :
    Mirrors env identifier ip (⟨clock, .succeeded⟩ :: log) clock
      ((store.remove (failcountKey env identifier ip)).remove
        (lockoutKey env identifier ip)) where
  lawful := .cons mirrors.lawful mirrors.past (iff_of_false Verdict.noConfusion unlocked)
  past := mirrors.cons_past
  locked _ latest := nomatch latest
  unlocked _ := ExpiringStore.lookup_remove_same _ _ _
  counting _ opened := nomatch opened
  idle _ := by
    rw [ExpiringStore.lookup_remove_other _ _ (by simp [failcountKey, lockoutKey])]
    exact ExpiringStore.lookup_remove_same _ _ _

omit [CommRing T] [LinearOrder T] in
theorem failcountKey_ne_lockoutKey :
    failcountKey env identifier ip ≠ lockoutKey env identifier ip := nofun

/-- A recorded failure leaves the counter of its window, or the lock if it has filled it. -/
theorem Mirrors.record (mirrors : Mirrors env identifier ip log clock store) {opening : T}
    (unlocked : store.lookup clock (lockoutKey env identifier ip) = none)
    (gate : ¬ isLocked env.settings.maxFailedLogins (lockout env) (window env log) clock)
    (latest : (window env (⟨clock, .failed⟩ :: log)).head? = some clock)
    (opened : (window env (⟨clock, .failed⟩ :: log)).getLast? = some opening) :
    Mirrors env identifier ip (⟨clock, .failed⟩ :: log) clock
      (lockIfFull env identifier ip clock
        (store.put (failcountKey env identifier ip)
          ⟨.count (window env (⟨clock, .failed⟩ :: log)).length, some (opening + lockout env)⟩)
        (window env (⟨clock, .failed⟩ :: log)).length) := by
  have lawful : Lawful env.settings.maxFailedLogins (lockout env) (⟨clock, .failed⟩ :: log) :=
    .cons mirrors.lawful mirrors.past (iff_of_false Verdict.noConfusion gate)
  have nonempty : window env (⟨clock, .failed⟩ :: log) ≠ [] := by
    intro empty
    rw [empty] at latest
    cases latest
  rw [lockIfFull]
  split
  -- the failure that fills the window: the lock is set and the counter deleted
  next full =>
    refine ⟨lawful, mirrors.cons_past, ?_, fun unfilled => ?_, fun _ _ unfilled => ?_, fun _ => ?_⟩
    · intro last isLast _
      rw [latest] at isLast
      cases isLast
      simp [ExpiringStore.put, ExpiringStore.remove, failcountKey_ne_lockoutKey.symm]
    · omega
    · omega
    · exact ExpiringStore.lookup_remove_same _ _ _
  next unfilled =>
    refine ⟨lawful, mirrors.cons_past, fun _ _ full => ?_, fun _ => ?_, ?_, fun closed => ?_⟩
    · omega
    · rw [ExpiringStore.lookup_put_other _ _ _ failcountKey_ne_lockoutKey.symm]
      exact unlocked
    · intro first isFirst _
      rw [opened] at isFirst
      cases isFirst
      simp [ExpiringStore.put]
    · cases closed with
      | inl empty => exact absurd empty nonempty
      | inr full => omega

/-- A failure outside the window opens the next one. -/
theorem Mirrors.reopen (mirrors : Mirrors env identifier ip log clock store)
    (unlocked : store.lookup clock (lockoutKey env identifier ip) = none)
    (gate : ¬ isLocked env.settings.maxFailedLogins (lockout env) (window env log) clock)
    (outside : ¬ isOpen env.settings.maxFailedLogins (lockout env) (window env log) clock) :
    Mirrors env identifier ip (⟨clock, .failed⟩ :: log) clock
      (recordedFailure env identifier ip clock store) := by
  have same : window env (⟨clock, .failed⟩ :: log) = [clock] := by
    simp only [window, counted]
    exact if_neg outside
  have absent : store.lookup clock (failcountKey env identifier ip) = none := by
    cases opened : (window env log).getLast? with
    | none => exact mirrors.idle (.inl (List.getLast?_eq_none_iff.mp opened))
    | some opening =>
      rcases lt_or_ge (window env log).length env.settings.maxFailedLogins with unfilled | full
      · rw [isOpen_iff opened, not_and] at outside
        rw [ExpiringStore.lookup, mirrors.counting opening opened unfilled]
        exact if_neg (outside unfilled)
      · exact mirrors.idle (.inr full)
  have recorded := mirrors.record unlocked gate (by rw [same]; rfl)
    (show _ = some clock by rw [same]; rfl)
  rw [same] at recorded
  simpa only [recordedFailure, absent, List.length_singleton] using recorded

/-- A failure inside the window is counted in it, and may fill it. -/
theorem Mirrors.count (mirrors : Mirrors env identifier ip log clock store)
    (unlocked : store.lookup clock (lockoutKey env identifier ip) = none)
    (gate : ¬ isLocked env.settings.maxFailedLogins (lockout env) (window env log) clock)
    (inside : isOpen env.settings.maxFailedLogins (lockout env) (window env log) clock) :
    Mirrors env identifier ip (⟨clock, .failed⟩ :: log) clock
      (recordedFailure env identifier ip clock store) := by
  have same : window env (⟨clock, .failed⟩ :: log) = clock :: window env log := by
    simp only [window, counted]
    exact if_pos inside
  cases opened : (window env log).getLast? with
  | none => simp [isOpen, opened] at inside
  | some opening =>
    obtain ⟨unfilled, recent⟩ := (isOpen_iff opened).mp inside
    have entry := mirrors.counting opening opened unfilled
    have nonempty : (window env log).length ≠ 0 :=
      (List.length_pos_of_mem (List.mem_of_getLast? opened)).ne'
    have found : store.lookup clock (failcountKey env identifier ip) =
        some (.count (window env log).length) := by
      rw [ExpiringStore.lookup, entry]
      exact if_pos recent
    have deadline : store.deadlineAt clock (failcountKey env identifier ip) =
        some (opening + lockout env) := by
      rw [ExpiringStore.deadlineAt, entry]
      exact if_pos recent
    have recorded := mirrors.record unlocked gate (by rw [same]; rfl)
      (show _ = some opening by rw [same, List.getLast?_cons, opened]; rfl)
    rw [same] at recorded
    simpa only [recordedFailure, found, nonempty, if_false, deadline, List.length_cons]
      using recorded

/-- The keys mirror the windows after a call as well. -/
theorem Mirrors.attempt {server : Server T} {verdict : Verdict} {after : RedisStore T}
    (mirrors : Mirrors env identifier ip log server.clock server.redis)
    (attempted : Attempted env identifier ip server verdict after)
    (positive : 0 < env.settings.maxFailedLogins) :
    Mirrors env identifier ip (⟨server.clock, verdict⟩ :: log) server.clock after := by
  have locks := mirrors.locked_iff positive
  cases attempted with
  | refused locked => exact mirrors.unchanged ⟨fun _ => locks.mp locked, fun _ => rfl⟩ rfl
  | undecided unlocked =>
    exact mirrors.unchanged (iff_of_false Verdict.noConfusion (mt locks.mpr unlocked)) rfl
  | succeeded unlocked => exact mirrors.succeed fun locked => unlocked (locks.mpr locked)
  | failed unlocked =>
    have gate := fun locked => unlocked (locks.mpr locked)
    have absent := Option.not_isSome_iff_eq_none.mp unlocked
    by_cases inside : isOpen env.settings.maxFailedLogins (lockout env) (window env log) server.clock
    · exact mirrors.count absent gate inside
    · exact mirrors.reopen absent gate inside

end

end EnterpriseAuth
