import EnterpriseAuth.Requests.Services

/-!
# The lockout on the server

What checking, recording and clearing failures do to the store, exactly.
-/

namespace EnterpriseAuth

open Effects Program RateLimiter

variable {T : Type} (env : Environment T) [CommRing T] [LinearOrder T]

section
variable (identifier : String) (ip : Option String) (server : Server T)

theorem run_ensureNotLocked :
    (ensureNotLocked env identifier ip).run handle server =
      if (server.redis.lookup server.clock (lockoutKey env identifier ip)).isSome then
        (.error .accountLocked, server)
      else (.ok (), server) := by
  simp only [ensureNotLocked, run_bind, run_tryCatch, run_present, run_ite, run_throw, run_pure]

theorem run_clearFailures :
    (clearFailures env identifier ip).run handle server =
      (.ok (), { server with
        redis := (server.redis.remove (failcountKey env identifier ip)).remove
          (lockoutKey env identifier ip) }) := by
  simp only [clearFailures, run_tryCatch, run_bind, run_deleteKey]

/-- A full counter becomes a lock. -/
def RateLimiter.lockIfFull (now : T) (store : RedisStore T) (count : ℕ) : RedisStore T :=
  if count ≥ env.settings.maxFailedLogins then
    (store.put (lockoutKey env identifier ip)
      ⟨.flag, some (now + (env.settings.lockoutSeconds : ℕ))⟩).remove (failcountKey env identifier ip)
  else store

/-- `record_failure` on the store. -/
def RateLimiter.recordedFailure (now : T) (store : RedisStore T) : RedisStore T :=
  let counted (count : ℕ) (deadline : Option T) :=
    lockIfFull env identifier ip now
      (store.put (failcountKey env identifier ip) ⟨.count count, deadline⟩) count
  match store.lookup now (failcountKey env identifier ip) with
  | none => counted 1 (some (now + (env.settings.lockoutSeconds : ℕ)))
  | some (.count value) =>
    counted (value + 1)
      (if value = 0 then some (now + (env.settings.lockoutSeconds : ℕ))
      else store.deadlineAt now (failcountKey env identifier ip))
  | some _ => store

theorem run_lockIfFull (count : ℕ) :
    (if count ≥ env.settings.maxFailedLogins then
      setKey (lockoutKey env identifier ip) .flag env.settings.lockoutSeconds >>=
        fun _ => deleteKey (failcountKey env identifier ip)
    else pure () : App T Unit).run handle server =
      (.ok (), { server with
        redis := lockIfFull env identifier ip server.clock server.redis count }) := by
  have positive : env.settings.lockoutSeconds.val ≠ 0 := env.settings.lockoutSeconds.pos.ne'
  simp only [run_ite, run_bind, run_setKey_of_pos _ _ _ positive, run_deleteKey, run_pure, lockIfFull]
  split <;> rfl

theorem run_expireKey_of_some {key : Key} {value : RedisValue} (seconds : ℕ)
    (found : server.redis.lookup server.clock key = some value) :
    (expireKey key seconds : App T Unit).run handle server =
      (.ok (), { server with
        redis := server.redis.put key ⟨value, some (server.clock + seconds)⟩ }) := by
  rw [run_expireKey]
  simp only [RedisCommand.execute, found]

theorem run_recordFailure :
    (recordFailure env identifier ip).run handle server =
      (.ok (), { server with
        redis := recordedFailure env identifier ip server.clock server.redis }) := by
  simp only [recordFailure, recordedFailure, run_tryCatch, run_bind, run_incrKey,
    RedisCommand.execute]
  cases stored : server.redis.lookup server.clock (failcountKey env identifier ip) with
  | none =>
    have counted : (server.redis.put (failcountKey env identifier ip) ⟨.count 1, none⟩).lookup
        server.clock (failcountKey env identifier ip) = some (.count 1) := by
      simp [ExpiringStore.lookup, ExpiringStore.put]
    simp only [if_pos, run_bind]
    rw [run_expireKey_of_some _ _ counted]
    simp only [run_lockIfFull, ExpiringStore.put_put]
  | some value =>
    cases value with
    | count value =>
      by_cases first : value = 0
      · subst first
        have counted := ExpiringStore.lookup_put_deadlineAt (.count (0 + 1)) stored
        simp only [if_pos, run_bind]
        rw [run_expireKey_of_some _ _ counted]
        simp only [run_lockIfFull, ExpiringStore.put_put]
      · simp only [Nat.add_eq_right, first, if_false, run_lockIfFull]
    | flag => rfl
    | oauth => rfl

/-- No other key is concerned. -/
theorem RateLimiter.recordedFailure_other (now : T) (store : RedisStore T) {key : Key}
    (notLockout : ∀ subject, key ≠ .lockout subject)
    (notFailcount : ∀ subject, key ≠ .failcount subject) :
    recordedFailure env identifier ip now store key = store key := by
  have counted (count : ℕ) (deadline : Option T) :
      lockIfFull env identifier ip now
        (store.put (failcountKey env identifier ip) ⟨.count count, deadline⟩) count key =
      store key := by
    unfold lockIfFull
    split <;> simp [ExpiringStore.put, ExpiringStore.remove, lockoutKey, failcountKey, notLockout,
      notFailcount]
  unfold recordedFailure
  cases store.lookup now (failcountKey env identifier ip) with
  | none => exact counted _ _
  | some value =>
    cases value with
    | count value => exact counted _ _
    | flag => rfl
    | oauth => rfl

end

end EnterpriseAuth
