import EnterpriseAuth.Guarantees.OAuthStates
import EnterpriseAuth.Requests.ConcurrentCallbacks

/-!
# The owner of a provider identity

The unique key of the links decides between callbacks for one identity: the first one that commits
makes its user the owner for good, the transaction of any other one fails as a whole, and a link that
was started for another user is refused.
-/

namespace EnterpriseAuth

open Effects Program OAuthService

variable {T ι : Type}

section
variable [CommRing T] [LinearOrder T] [FloorRing T]

/-! ## Runs -/

variable {drift : Shared T → Shared T → Prop} {arrivals : ι → Arrival} {pool next : RequestPool ι T}

omit [CommRing T] [FloorRing T] in
theorem CallbackFor.presents {payload : OAuthState} {identity : String × String} {log : RequestLog T}
    (callback : CallbackFor arrival log payload identity) :
    arrival.route.presentedState.isSome := by
  obtain ⟨route, -, -⟩ := callback
  simp [route, Route.presentedState]

def Committed (log : RequestLog T) : Prop := ∃ entry ∈ log, entry.op = .commit ∧ entry.reply.isOk

/-- A callback that has committed has linked its identity to a user it was meant for. -/
structure CallbacksDone (arrivals : ι → Arrival) (pool : RequestPool ι T) : Prop where
  label : ∀ i, (pool.threads i).own.1 = arrivals i
  linked : ∀ i payload identity, CallbackFor (arrivals i) (pool.threads i).log payload identity →
    Committed (pool.threads i).log →
    ∃ account, pool.shared.committed.oauthAccounts.find identity = some account ∧
      payload.Meant account.userId

/-- The turn of a thread: it commits its transaction, or leaves what is committed alone. -/
inductive TurnOf (pool next : RequestPool ι T) (i : ι) : Prop
  | commits (log : (next.threads i).log = ⟨.commit, .ok (), pool.shared⟩ :: (pool.threads i).log)
    (inside : (pool.threads i).own.2.Inside Frame.links)
    (isAllowed : CallbackAllowed (pool.threads i).own.1 (pool.threads i).own.2 (pool.threads i).log
      .commit pool.shared)
    (shows : (pool.threads i).own.2.sees pool.shared.committed = .ok next.shared.committed)
  | leaves {entry : Performed (Command T) Command.Res AppError (Shared T)}
    (log : (next.threads i).log = entry :: (pool.threads i).log)
    (commitless : ¬ (entry.op = .commit ∧ entry.reply.isOk))
    (isLast : (pool.threads i).own.1.route.presentedState.isSome →
      ∀ earlier ∈ (pool.threads i).log, earlier.op ≠ .commit)
    (same : next.shared.committed = pool.shared.committed)

omit [FloorRing T] in
theorem turn_of_moves [DecidableEq ι] {i : ι}
    (moves : callbackDiscipline.Moves drift pool (some i) next) :
    TurnOf pool next i ∧ (next.threads i).own.1 = (pool.threads i).own.1 ∧
      ∀ j, j ≠ i → next.threads j = pool.threads j := by
  cases moves with
  | @act turn op rest programIs vantage ownIs logIs permits thread left =>
    refine ⟨?_, ?_, fun j other => by simp [other]⟩
    · have log : thread.log = ⟨op, (callbackDiscipline.handle op (vantage.own, pool.shared)).1,
          pool.shared⟩ :: (pool.threads i).log := by
        rw [left, ← logIs]
        rfl
      have uncommitted (presents : vantage.own.1.route.presentedState.isSome) :
          ∀ earlier ∈ vantage.log, earlier.op ≠ .commit := (permits.1.2 presents).1
      by_cases isCommit : op = .commit
      · subst isCommit
        cases shows : vantage.own.2.sees pool.shared.committed with
        | ok db =>
          refine .commits ?_ (ownIs ▸ permits.1.1) (ownIs ▸ logIs ▸ permits.1.2) ?_
          · simp [log, callbackDiscipline, Frame.discipline, Handler.labelled, concurrently, shows]
          · rw [← ownIs, shows]
            simp [callbackDiscipline, Frame.discipline, Discipline.left, Handler.labelled,
              concurrently, shows]
        | error =>
          refine .leaves (by simpa using log) ?_ (ownIs ▸ logIs ▸ uncommitted) ?_
          · simp [callbackDiscipline, Frame.discipline, Handler.labelled, concurrently, shows,
              Except.isOk, Except.toBool]
          · simp [callbackDiscipline, Frame.discipline, Discipline.left, Handler.labelled,
              concurrently, shows]
      · refine .leaves (by simpa using log) (fun commits => isCommit commits.1)
          (ownIs ▸ logIs ▸ uncommitted) ?_
        exact committed_concurrently isCommit vantage.own.2 pool.shared
    · simp [left, ownIs, Discipline.left, callbackDiscipline, Frame.discipline, Handler.labelled]

omit [CommRing T] [FloorRing T] in
theorem CallbackFor.before_commit {payload : OAuthState} {identity : String × String}
    {log : RequestLog T} {reply : Except AppError Unit} {shared : Shared T}
    (callback : CallbackFor arrival (⟨.commit, reply, shared⟩ :: log) payload identity) :
    CallbackFor arrival log payload identity := by
  obtain ⟨route, ⟨entry, member, isGet, found⟩, reports⟩ := callback
  cases member with
  | head => cases isGet
  | tail _ old => exact .intro route ⟨entry, old, isGet, found⟩ reports

omit [CommRing T] [FloorRing T] in
/-- A callback that changes users or links inserts its link, where there was none. -/
theorem TurnOf.links {i : ι} (turn : TurnOf pool next i) {payload : OAuthState}
    {identity : String × String}
    (callback : CallbackFor (pool.threads i).own.1 (pool.threads i).log payload identity) :
    pool.shared.committed.SameAccounts next.shared.committed ∨
      pool.shared.committed.oauthAccounts.find identity = none ∧
        ∃ account, next.shared.committed.oauthAccounts.find identity = some account ∧
          payload.Meant account.userId := by
  cases turn with
  | leaves log commitless isLast same => rw [same]; exact .inl ⟨rfl, rfl⟩
  | commits log inside isAllowed shows =>
    obtain ⟨account, meant, settled⟩ := (isAllowed callback.presents).2 rfl _ _ callback
    obtain ⟨linked, same | absent⟩ := settled.commits inside shows
    · exact .inl same
    · exact .inr ⟨absent, account, linked, meant⟩

omit [FloorRing T] in
theorem CallbacksDone.step [DecidableEq ι] {turn : Option ι} (done : CallbacksDone arrivals pool)
    (moves : callbackDiscipline.Moves drift pool turn next) : CallbacksDone arrivals next := by
  -- a link that is there stays
  have stays {i : ι} {payload : OAuthState} {identity : String × String}
      (same : next.threads i = pool.threads i)
      (callback : CallbackFor (arrivals i) (next.threads i).log payload identity)
      (committed : Committed (next.threads i).log) :
      ∃ account, next.shared.committed.oauthAccounts.find identity = some account ∧
        payload.Meant account.userId := by
    rw [same] at callback committed
    obtain ⟨account, linked, meant⟩ := done.linked i payload identity callback committed
    exact ⟨account, moves.evolves _ _ linked, meant⟩
  cases turn with
  | none =>
    cases moves with
    | drift => exact ⟨done.label, fun i payload identity callback committed =>
        stays rfl callback committed⟩
  | some turn =>
    obtain ⟨taken, label, others⟩ := turn_of_moves moves
    refine ⟨fun i => ?_, fun i payload identity callback committed => ?_⟩
    · by_cases same : i = turn
      · rw [same, label, done.label]
      · rw [others i same, done.label]
    · by_cases same : i = turn
      · subst same
        cases taken with
        | commits log inside isAllowed shows =>
          rw [log, ← done.label i] at callback
          have callback := callback.before_commit
          obtain ⟨account, meant, settled⟩ := (isAllowed callback.presents).2 rfl _ _ callback
          exact ⟨account, (settled.commits inside shows).1, meant⟩
        | leaves log commitless isLast same =>
          rw [log] at committed
          obtain ⟨entry, member, isCommit, isOk⟩ := committed
          cases member with
          | head => exact absurd ⟨isCommit, isOk⟩ commitless
          | tail _ earlier =>
            rw [done.label i] at isLast
            exact absurd isCommit (isLast callback.presents entry earlier)
      · exact stays (others i same) callback committed

/-- The requests in all interleavings, while others leave the links alone. -/
def linkingRequests [DecidableEq ι] (env : Environment T) (start : Shared T → Prop)
    (arrivals : ι → Arrival) : System (RequestPool ι T) (Option ι) :=
  requests env (fun before after => after.committed.oauthAccounts = before.committed.oauthAccounts)
    start arrivals

/-- What the owner of an identity can count on, and what the callbacks for it come to. -/
structure PermanentOwners (system : System (RequestPool ι T) (Option ι)) (arrivals : ι → Arrival)
    (pool : RequestPool ι T) : Prop where
  unique : ∀ account ∈ pool.shared.committed.oauthAccounts.rows,
    ∀ other ∈ pool.shared.committed.oauthAccounts.rows,
      account.provider = other.provider → account.providerAccountId = other.providerAccountId →
      account = other
  permanent : ∀ later, system.Leads pool later → ∀ identity account,
    pool.shared.committed.oauthAccounts.find identity = some account →
    later.shared.committed.oauthAccounts.find identity = some account
  /-- a callback that succeeds returns the owner -/
  returns : ∀ i reply payload identity, (pool.threads i).program = .pure reply →
    CallbackFor (arrivals i) (pool.threads i).log payload identity →
    ∃ account, pool.shared.committed.oauthAccounts.find identity = some account ∧
      payload.Meant account.userId ∧
      ∃ answer, reply = .login answer ∧ payload.AnsweredBy account.userId answer
  /-- a link for another user than the owner raises, and has changed nothing on its way -/
  refuses : ∀ i payload identity account,
    CallbackFor (arrivals i) (pool.threads i).log payload identity →
    pool.shared.committed.oauthAccounts.find identity = some account →
    ¬ payload.Meant account.userId →
    ((pool.threads i).Running ∨ ∃ error, (pool.threads i).program = .throw error) ∧
      ∀ before after, system.Reachable before → system.step before (some i) after →
        system.Leads after pool → before.shared.committed.SameAccounts after.shared.committed
  /-- a callback that changes users or links does so where its identity had no owner -/
  links : ∀ i payload identity next, CallbackFor (arrivals i) (pool.threads i).log payload identity →
    system.step pool (some i) next →
    pool.shared.committed.SameAccounts next.shared.committed ∨
      pool.shared.committed.oauthAccounts.find identity = none ∧
        ∃ account, next.shared.committed.oauthAccounts.find identity = some account ∧
          payload.Meant account.userId

variable {env : Environment T} {start : Shared T → Prop} [DecidableEq ι]

omit [DecidableEq ι] in
theorem obeys_request (i : ι) :
    callbackDiscipline.Obeys (fun vantage => vantage.own = (arrivals i, {}) ∧ vantage.log = [] ∧
      start vantage.since) (serve env (arrivals i)) (Concluded (arrivals i)) fun _ _ => True := by
  have inside : ({} : Transaction T).Inside Frame.links := by simp [Transaction.Inside]
  cases presented : (arrivals i).route.presentedState with
  | none =>
    apply (obeys_other env presented).enter
    intro vantage fresh
    rw [fresh.1]
    exact ⟨rfl, inside⟩
  | some state =>
    obtain ⟨provider, code, route⟩ := callback_of_presentedState presented
    apply (obeys_callback env route).enter
    rintro ⟨own, log, since⟩ ⟨rfl, rfl, -⟩
    exact ⟨rfl, inside, by simp, by simp, by simp [Popped], rfl⟩

theorem done_of_reachable (reachable : (linkingRequests env start arrivals).Reachable pool) :
    CallbacksDone arrivals pool ∧ callbackDiscipline.Orderly (fun i => Concluded (arrivals i)) pool := by
  refine callbackDiscipline.invariant (CallbacksDone arrivals) reachable.unconditional
    obeys_request (fun before after same => ?_) (fun _ _ _ _ _ _ => trivial) (fun shared _ => ?_)
    fun _ _ _ _ _ done moves => done.step moves
  · intro identity account found
    rwa [same]
  · exact ⟨fun _ => rfl, fun i payload identity _ committed => by simp [Committed] at committed⟩

/-- In all interleavings the links have one owner for good, and every callback respects it. -/
theorem provider_identity_owned_for_good
    (reachable : (linkingRequests env start arrivals).Reachable pool) :
    PermanentOwners (linkingRequests env start arrivals) arrivals pool := by
  obtain ⟨done, orderly⟩ := done_of_reachable reachable
  have drifts (before after : Shared T)
      (same : after.committed.oauthAccounts = before.committed.oauthAccounts) :
      callbackDiscipline.evolves before after := by
    intro identity account found
    rwa [same]
  have returns (i : ι) (reply : Reply T) (payload : OAuthState) (identity : String × String)
      (returned : (pool.threads i).program = .pure reply)
      (callback : CallbackFor (arrivals i) (pool.threads i).log payload identity) :
      ∃ account, pool.shared.committed.oauthAccounts.find identity = some account ∧
        payload.Meant account.userId ∧
        ∃ answer, reply = .login answer ∧ payload.AnsweredBy account.userId answer := by
    obtain ⟨since, evolves, concluded⟩ := orderly.returned returned
    obtain ⟨account, linked, meant, answered⟩ := concluded payload identity callback
    exact ⟨account, evolves _ _ linked, meant, answered⟩
  constructor
  · intro account member other otherMember provider accountId
    have found := Table.find_of_mem member
    have foundOther := Table.find_of_mem otherMember
    rw [provider, accountId, foundOther] at found
    exact (Option.some.inj found).symm
  · intro later leads
    exact (orderly.leads leads drifts fun _ _ _ => trivial).1
  · exact returns
  · intro i payload identity account callback owned other
    refine ⟨?_, fun before after fromStart step leads => ?_⟩
    · cases program : (pool.threads i).program with
      | perform command rest => exact .inl ⟨command, rest, program⟩
      | throw error => exact .inr ⟨error, rfl⟩
      | pure reply =>
        obtain ⟨owner, linked, meant, -⟩ := returns i reply payload identity program callback
        rw [owned] at linked
        cases linked
        exact absurd meant other
    · obtain ⟨doneBefore, orderlyBefore⟩ := done_of_reachable fromStart
      obtain ⟨moves, -⟩ := orderlyBefore.step drifts (fun _ _ _ _ _ => trivial) step
      cases (turn_of_moves moves).1 with
      | leaves log commitless isLast same => rw [same]; exact ⟨rfl, rfl⟩
      | commits log inside isAllowed shows =>
        -- a thread that has committed would have linked the identity to the user it is for
        have committed : Committed (pool.threads i).log := by
          refine ⟨_, Pool.log_subset_of_leads leads i (log ▸ List.mem_cons_self), rfl, rfl⟩
        obtain ⟨owner, linked, meant⟩ := done.linked i payload identity callback committed
        rw [owned] at linked
        cases linked
        exact absurd meant other
  · intro i payload identity next callback step
    obtain ⟨moves, -⟩ := orderly.step drifts (fun _ _ _ _ _ => trivial) step
    exact (turn_of_moves moves).1.links (done.label i ▸ callback)

end

/-! ## Two callbacks for one identity -/

/-- Two logins have been started at one provider. -/
def bothLogins : World ℚ :=
  World.new.play demo [.request (authorizeAt "google"), .request (authorizeAt "google")]

/-- Both come back with the same identity. -/
def bobTwice : Bool → Arrival
  | false => callbackFrom "google" "bob" "url-safe-token-0"
  | true => callbackFrom "google" "bob" "url-safe-token-2"

def bobPool : RequestPool Bool ℚ :=
  ⟨fun i => ⟨serve demo (bobTwice i), (bobTwice i, {}), []⟩, bothLogins.shared⟩

/-- Both find the identity without a link and create a user, and the first commit decides. -/
theorem race_for_identity :
    PermanentOwners (linkingRequests demo (· = bothLogins.shared) bobTwice) bobTwice
      (bobPool.afterTurns (Handler.labelled concurrently) (fun _ _ => true)
        (List.replicate 25 false ++ List.replicate 25 true ++ [false, true])) := by
  have reachable : (linkingRequests demo (· = bothLogins.shared) bobTwice).Reachable
      (bobPool.afterTurns (Handler.labelled concurrently) (fun _ _ => true)
        (List.replicate 25 false ++ List.replicate 25 true ++ [false, true])) := by
    unfold linkingRequests requests bobPool
    exact Pool.reachable_schedule rfl (by decide +kernel)
  exact provider_identity_owned_for_good reachable

end EnterpriseAuth
