import EnterpriseAuth.Api.Failures
import EnterpriseAuth.Effects.Coupling
import EnterpriseAuth.Effects.FixedWindow
import EnterpriseAuth.Guarantees.Scenario
import EnterpriseAuth.Requests.Keys
import EnterpriseAuth.Requests.Lockout

/-!
# The fixed-window limiter

The counter of a key is the size of the window that the calls on the key have opened, and it lapses
when the window ends.  So a call is accepted exactly when it is among the first `limit` of its window.
-/

namespace EnterpriseAuth

open Effects Program RateLimiter

variable {T : Type}

/-! ## Calls -/

structure LimitedCall (T : Type) where
  key : String
  limit : ℕ
  windowSeconds : ℕ
  instant : T

/-- The instants of the calls on the key. -/
def callsOn (key : String) (calls : List (LimitedCall T)) : List T :=
  (calls.filter fun call => call.key = key).map (·.instant)

variable [CommRing T] [LinearOrder T]

def Server.limited (server : Server T) (call : LimitedCall T) : Except AppError Unit × Server T :=
  (hit call.key call.limit call.windowSeconds).run handle { server with clock := call.instant }

/-- The calls one after the other, each with its outcome. -/
def Server.outcomes (server : Server T) :
    List (LimitedCall T) → List (LimitedCall T × Except AppError Unit)
  | [] => []
  | call :: calls => (call, (server.limited call).1) :: (server.limited call).2.outcomes calls

/-- The instants of the calls on the key that were accepted. -/
def acceptedOn (key : String) (outcomes : List (LimitedCall T × Except AppError Unit)) : List T :=
  (outcomes.filter fun outcome => outcome.1.key = key && outcome.2.isOk).map (·.1.instant)

/-! ## One call -/

def verdict (limit count : ℕ) : Except AppError Unit :=
  if count > limit then .error .rateLimited else .ok ()

theorem isOk_verdict (limit count : ℕ) : (verdict limit count).isOk = decide (count ≤ limit) := by
  by_cases few : count > limit
  · simp [verdict, few, Except.isOk, Except.toBool]
  · simp [verdict, few, Except.isOk, Except.toBool, not_lt.mp few]

/-- The call that opens a window. -/
theorem run_hit_absent {key : String} (server : Server T) (limit windowSeconds : ℕ)
    (absent : server.redis.lookup server.clock (.rateLimit key) = none) :
    (hit key limit windowSeconds : App T Unit).run handle server =
      (verdict limit 1, { server with
        redis := server.redis.put (.rateLimit key)
          ⟨.count 1, some (server.clock + windowSeconds)⟩ }) := by
  have counted : (server.redis.put (.rateLimit key) ⟨.count 1, none⟩).lookup server.clock
      (.rateLimit key) = some (.count 1) := by
    simp [ExpiringStore.lookup, ExpiringStore.put]
  simp only [hit, run_bind, run_tryCatch, run_incrKey, RedisCommand.execute, absent, if_pos, run_pure]
  rw [run_expireKey_of_some _ _ counted]
  simp only [ExpiringStore.put_put, run_ite, run_throw, run_pure, verdict]
  split <;> rfl

/-- A call that joins a window of `count` calls. -/
theorem run_hit_counted {key : String} (server : Server T) {count : ℕ} (limit windowSeconds : ℕ)
    (positive : 0 < count)
    (found : server.redis.lookup server.clock (.rateLimit key) = some (.count count)) :
    (hit key limit windowSeconds : App T Unit).run handle server =
      (verdict limit (count + 1), { server with
        redis := server.redis.put (.rateLimit key)
          ⟨.count (count + 1), server.redis.deadlineAt server.clock (.rateLimit key)⟩ }) := by
  have notFirst : count + 1 ≠ 1 := by omega
  simp only [hit, run_bind, run_tryCatch, run_incrKey, RedisCommand.execute, found, notFirst,
    if_false, run_pure, run_ite, run_throw, verdict]
  split <;> rfl

/-- The commands on one key. -/
def Command.On (key : Key) : Command T → Prop
  | .redis command => command.key = key
  | _ => False

omit [CommRing T] [LinearOrder T] in
theorem calls_hit (key : String) (limit windowSeconds : ℕ) :
    Calls (Command.On (.rateLimit key)) (hit key limit windowSeconds : App T Unit) := by
  have : Opens (Command.On (T := T) (.rateLimit key)) (.rateLimit key) := ⟨fun _ same => same⟩
  infer_instance

/-- What a command on a key does depends on the entry under the key only. -/
theorem RedisCommand.execute_congr {command : RedisCommand} {key : Key} (on : command.key = key)
    {store other : RedisStore T} (same : other key = store key) (now : T) :
    (command.execute now other).1 = (command.execute now store).1 ∧
      (command.execute now other).2 key = (command.execute now store).2 key := by
  subst on
  have found := ExpiringStore.lookup_congr same now
  have deadline : other.deadlineAt now command.key = store.deadlineAt now command.key := by
    simp only [ExpiringStore.deadlineAt, same]
  cases command <;> simp only [execute, RedisCommand.key] at found deadline same ⊢
  case present | get => exact ⟨by rw [found], same⟩
  case set =>
    split
    · exact ⟨rfl, same⟩
    · simp [ExpiringStore.put]
  case delete => simp [ExpiringStore.remove]
  case incr =>
    rw [found, deadline]
    split <;> simp [ExpiringStore.put, same]
  case expire =>
    rw [found]
    split <;> simp [ExpiringStore.put, same]

/-- A call leaves the counters of other keys alone. -/
theorem limited_other {key : String} {call : LimitedCall T} (other : call.key ≠ key)
    (server : Server T) :
    (server.limited call).2.redis (.rateLimit key) = server.redis (.rateLimit key) := by
  have kept : Keeps handle
      (fun next : Server T => next.redis (.rateLimit key) = server.redis (.rateLimit key))
      (hit call.key call.limit call.windowSeconds) := by
    refine (calls_hit _ _ _).every.keeps fun command next on same => ?_
    cases command with
    | redis command =>
      refine (RedisCommand.execute_other (fun writes => ?_) _ _).trans same
      have isKey : Key.rateLimit call.key = .rateLimit key :=
        Eq.trans (Eq.symm on) (RedisCommand.writes_key writes)
      exact other (Key.rateLimit.inj isKey)
    | _ => exact on.elim
  exact kept.final rfl

/-- What a call comes to depends on the counter of its key only. -/
theorem limited_congr {server other : Server T} {call : LimitedCall T}
    (same : other.redis (.rateLimit call.key) = server.redis (.rateLimit call.key)) :
    (other.limited call).1 = (server.limited call).1 ∧
      (other.limited call).2.redis (.rateLimit call.key) =
        (server.limited call).2.redis (.rateLimit call.key) := by
  let related (left right : Server T) : Prop :=
    right.clock = left.clock ∧ right.redis (.rateLimit call.key) = left.redis (.rateLimit call.key)
  have coupled : Coupled handle related (hit call.key call.limit call.windowSeconds) related
      fun _ => True := by
    refine (calls_hit _ _ _).every.coupled fun command left right on alike => ?_
    cases command with
    | redis command =>
      obtain ⟨reply, entry⟩ := RedisCommand.execute_congr on alike.2 left.clock
      simp only [handle, alike.1, reply, true_and]
      exact ⟨rfl, entry⟩
    | _ => exact on.elim
  obtain ⟨reply, states, -⟩ := coupled.runs { server with clock := call.instant }
    { other with clock := call.instant } ⟨rfl, same⟩
  exact ⟨reply, states.2⟩

/-- Calls on other keys are irrelevant to the calls on a key. -/
theorem outcomes_filter {key : String} (calls : List (LimitedCall T)) {server other : Server T}
    (same : other.redis (.rateLimit key) = server.redis (.rateLimit key)) :
    (server.outcomes calls).filter (fun outcome => outcome.1.key = key) =
      other.outcomes (calls.filter fun call => call.key = key) := by
  induction calls generalizing server other with
  | nil => rfl
  | cons call calls inductionHypothesis =>
    by_cases onKey : call.key = key
    · subst onKey
      obtain ⟨outcome, entry⟩ := limited_congr same
      simp only [Server.outcomes, List.filter_cons, decide_true, if_true, outcome]
      rw [inductionHypothesis entry]
    · simp only [Server.outcomes, List.filter_cons, onKey, decide_false, Bool.false_eq_true, if_false]
      exact inductionHypothesis (same.trans (limited_other onKey server).symm)

/-! ## The counter and the window -/

/-- The counter of the key holds the size of the window and lapses with it. -/
structure Server.Counts (server : Server T) (key : String) (windowSeconds : ℕ) (hits : List T) :
    Prop where
  unused : (FixedWindow.window (windowSeconds : T) hits).getLast? = none →
    server.redis.lookup server.clock (.rateLimit key) = none
  counter : ∀ opening, (FixedWindow.window (windowSeconds : T) hits).getLast? = some opening →
    server.redis (.rateLimit key) =
      some ⟨.count (FixedWindow.window (windowSeconds : T) hits).length, some (opening + windowSeconds)⟩

theorem limited_clock (server : Server T) (call : LimitedCall T) :
    (server.limited call).2.clock = call.instant := by
  have kept : Keeps handle (fun next : Server T => next.clock = call.instant)
      (hit call.key call.limit call.windowSeconds) :=
    (Every.anything _).keeps fun command next _ same => (clock_handle command next).trans same
  exact kept.final rfl

theorem Server.Counts.later {server next : Server T} {key : String} {windowSeconds : ℕ}
    {hits : List T} (counts : server.Counts key windowSeconds hits)
    (later : server.clock ≤ next.clock)
    (same : next.redis (.rateLimit key) = server.redis (.rateLimit key)) :
    next.Counts key windowSeconds hits where
  unused closed := by
    rw [ExpiringStore.lookup_congr same]
    exact ExpiringStore.lookup_lapsed later (counts.unused closed)
  counter opening opened := same.trans (counts.counter opening opened)

/-- The call is judged by the size of the window that it is counted in. -/
theorem Server.Counts.limited {server : Server T} {call : LimitedCall T} {hits : List T}
    (counts : server.Counts call.key call.windowSeconds hits) (later : server.clock ≤ call.instant) :
    (server.limited call).1 = verdict call.limit
        (FixedWindow.window (call.windowSeconds : T) (call.instant :: hits)).length ∧
      (server.limited call).2.Counts call.key call.windowSeconds (call.instant :: hits) := by
  unfold Server.limited
  cases meets : FixedWindow.joins (call.windowSeconds : T)
      (FixedWindow.window (call.windowSeconds : T) hits) call.instant with
  -- the window has ended, and the counter has lapsed with it
  | false =>
    have absent : server.redis.lookup call.instant (.rateLimit call.key) = none := by
      cases opened : (FixedWindow.window (call.windowSeconds : T) hits).getLast? with
      | none => exact ExpiringStore.lookup_lapsed later (counts.unused opened)
      | some opening =>
        have ended : ¬ call.instant < opening + call.windowSeconds := by
          rw [← FixedWindow.joins_iff opened, meets]
          exact Bool.false_ne_true
        have stored := counts.counter opening opened
        simp only [ExpiringStore.lookup, stored, ended, if_false]
    rw [run_hit_absent { server with clock := call.instant } _ _ absent,
      FixedWindow.window_of_apart meets]
    refine ⟨rfl, fun closed => ?_, fun opening opened => ?_⟩
    · simp [FixedWindow.window_of_apart meets] at closed
    · rw [FixedWindow.window_of_apart meets] at opened ⊢
      cases opened
      simp [ExpiringStore.put]
  -- the counter is there and keeps the deadline of the hit that opened the window
  | true =>
    obtain ⟨opening, opened, same, before⟩ := FixedWindow.opening_of_joins meets
    have stored := counts.counter opening opened
    have size : 0 < (FixedWindow.window (call.windowSeconds : T) hits).length :=
      List.length_pos_of_mem (List.mem_of_getLast? opened)
    have found : server.redis.lookup call.instant (.rateLimit call.key) =
        some (.count (FixedWindow.window (call.windowSeconds : T) hits).length) := by
      simp only [ExpiringStore.lookup, stored, before, if_true]
    have deadline : server.redis.deadlineAt call.instant (.rateLimit call.key) =
        some (opening + call.windowSeconds) := by
      simp only [ExpiringStore.deadlineAt, stored, before, if_true]
    rw [run_hit_counted { server with clock := call.instant } _ _ size found]
    refine ⟨by rw [FixedWindow.window_of_joins meets, List.length_cons], fun closed => ?_,
      fun other isOpening => ?_⟩
    · rw [same] at closed
      cases closed
    · rw [same] at isOpening
      cases isOpening
      rw [FixedWindow.window_of_joins meets, List.length_cons]
      simp [ExpiringStore.put, deadline]

/-! ## Sequences of calls -/

/-- The calls are made one after the other, and those on the key under one limit and one length of
its window. -/
structure Configured (key : String) (limit windowSeconds : ℕ) (calls : List (LimitedCall T)) :
    Prop where
  ordered : calls.Pairwise fun first second => first.instant ≤ second.instant
  limit : ∀ call ∈ calls, call.key = key → call.limit = limit
  windowSeconds : ∀ call ∈ calls, call.key = key → call.windowSeconds = windowSeconds

theorem accepted_outcomes {key : String} {limit windowSeconds : ℕ} {calls : List (LimitedCall T)}
    {server : Server T} {hits : List T} (configured : Configured key limit windowSeconds calls)
    (later : ∀ call ∈ calls, server.clock ≤ call.instant)
    (counts : server.Counts key windowSeconds hits) :
    (acceptedOn key (server.outcomes calls)).reverse ++
        FixedWindow.accepted limit (windowSeconds : T) hits =
      FixedWindow.accepted limit (windowSeconds : T) ((callsOn key calls).reverse ++ hits) := by
  induction calls generalizing server hits with
  | nil => rfl
  | cons call calls inductionHypothesis =>
    obtain ⟨ordered, limits, lengths⟩ := configured
    rw [List.pairwise_cons] at ordered
    rw [List.forall_mem_cons] at limits lengths later
    have rest : Configured key limit windowSeconds calls := ⟨ordered.2, limits.2, lengths.2⟩
    have next : ∀ other ∈ calls, (server.limited call).2.clock ≤ other.instant := by
      rw [limited_clock]
      exact ordered.1
    by_cases onKey : call.key = key
    · obtain ⟨sameLimit, sameLength⟩ := And.intro (limits.1 onKey) (lengths.1 onKey)
      subst onKey sameLimit sameLength
      obtain ⟨judged, counted⟩ := counts.limited later.1
      have others := inductionHypothesis rest next counted
      simp only [callsOn, acceptedOn, Server.outcomes, List.filter_cons, decide_true, judged,
        isOk_verdict, Bool.true_and, if_true, List.map_cons, List.reverse_cons, List.append_assoc,
        List.singleton_append] at others ⊢
      rw [← others, FixedWindow.accepted]
      split <;> simp_all
    · have others := inductionHypothesis rest next (counts.later (by rw [limited_clock]; exact later.1)
        (limited_other onKey server))
      simpa [callsOn, acceptedOn, Server.outcomes, List.filter_cons, onKey] using others

theorem outcomes_calls (server : Server T) (calls : List (LimitedCall T)) :
    (server.outcomes calls).map Prod.fst = calls := by
  induction calls generalizing server with
  | nil => rfl
  | cons call calls inductionHypothesis =>
    rw [Server.outcomes, List.map_cons, inductionHypothesis]

/-- Where all instants are those of accepted calls, no call was refused. -/
theorem accepted_of_acceptedOn {key : String} {calls : List (LimitedCall T)} {server : Server T}
    (all : acceptedOn key (server.outcomes calls) = callsOn key calls)
    {outcome : LimitedCall T × Except AppError Unit} (member : outcome ∈ server.outcomes calls)
    (onKey : outcome.1.key = key) : outcome.2 = .ok () := by
  have instants : callsOn key calls =
      ((server.outcomes calls).filter fun outcome => outcome.1.key = key).map (·.1.instant) := by
    conv_lhs => rw [← outcomes_calls server calls]
    simp only [callsOn, List.filter_map, List.map_map]
    rfl
  have lengths := congrArg List.length all
  rw [instants, acceptedOn, List.length_map, List.length_map] at lengths
  have twice : ((server.outcomes calls).filter fun outcome => outcome.1.key = key && outcome.2.isOk) =
      ((server.outcomes calls).filter fun outcome => outcome.1.key = key).filter (·.2.isOk) := by
    rw [List.filter_filter]
    exact List.filter_congr fun _ _ => Bool.and_comm _ _
  rw [twice, List.length_filter_eq_length_iff] at lengths
  have isOk := lengths outcome (List.mem_filter.mpr ⟨member, by simpa using onKey⟩)
  cases result : outcome.2 with
  | ok => rfl
  | error => simp [result, Except.isOk, Except.toBool] at isOk

/-- What the limiter owes the calls on a key. -/
structure LimiterSound (server : Server T) (key : String) (limit windowSeconds : ℕ)
    (calls : List (LimitedCall T)) : Prop where
  noFalseRefusal :
    (∀ start, (callsOn key calls).countP (FixedWindow.within (windowSeconds : T) start) ≤ limit) →
    ∀ outcome ∈ server.outcomes calls, outcome.1.key = key → outcome.2 = .ok ()
  bursts : ∀ start, (acceptedOn key (server.outcomes calls)).countP
    (FixedWindow.within (windowSeconds : T) start) ≤ 2 * limit - 1
  otherKeys : (server.outcomes calls).filter (fun outcome => outcome.1.key = key) =
    server.outcomes (calls.filter fun call => call.key = key)

/-- A key that is not counted yet: calls that are never too many are not refused, no interval of the
length of a window has more than `2 * limit - 1` calls accepted, and other keys do not matter. -/
theorem fixed_window_limiter [IsStrictOrderedRing T] {key : String} {limit windowSeconds : ℕ}
    {calls : List (LimitedCall T)} {server : Server T}
    (configured : Configured key limit windowSeconds calls) (someHits : 1 ≤ limit)
    (someSeconds : 1 ≤ windowSeconds) (later : ∀ call ∈ calls, server.clock ≤ call.instant)
    (uncounted : server.redis.lookup server.clock (.rateLimit key) = none) :
    LimiterSound server key limit windowSeconds calls := by
  have counts : server.Counts key windowSeconds [] := ⟨fun _ => uncounted, by simp [FixedWindow.window]⟩
  have accepted := accepted_outcomes configured later counts
  rw [FixedWindow.accepted, List.append_nil, List.append_nil] at accepted
  have ordered : (callsOn key calls).reverse.Pairwise (· ≥ ·) := by
    rw [List.pairwise_reverse, callsOn, List.pairwise_map]
    exact configured.ordered.filter _
  refine ⟨fun sparse outcome member onKey => ?_, fun start => ?_, outcomes_filter calls rfl⟩
  · have positive : (0 : T) < windowSeconds := by exact_mod_cast someSeconds
    have all : FixedWindow.accepted limit (windowSeconds : T) (callsOn key calls).reverse =
        (callsOn key calls).reverse := by
      refine FixedWindow.accepted_eq_self ordered
        (fun instant => lt_add_of_pos_right instant positive) fun start => ?_
      rw [List.countP_reverse]
      exact sparse start
    exact accepted_of_acceptedOn (List.reverse_injective (accepted.trans all)) member onKey
  · rw [← List.countP_reverse, accepted]
    exact FixedWindow.countP_accepted_le someHits ordered

/-! ## A burst -/

/-- Two calls a minute on one key, and a call on another one in between. -/
def burst : List (LimitedCall ℚ) :=
  [⟨"a", 2, 60, 0⟩, ⟨"a", 2, 60, 59⟩, ⟨"b", 1, 60, 59⟩, ⟨"a", 2, 60, 60⟩, ⟨"a", 2, 60, 61⟩]

theorem fixed_window_limiter_of_burst : LimiterSound World.new.server "a" 2 60 burst :=
  fixed_window_limiter ⟨by decide +kernel, by decide +kernel, by decide +kernel⟩ (by decide)
    (by decide) (by decide +kernel) rfl

/-- The bound is reached: three calls are accepted from the 59th second on. -/
example : (acceptedOn "a" (World.new.server.outcomes burst)).countP (FixedWindow.within 60 59) = 3 := by
  decide +kernel

end EnterpriseAuth
