import EnterpriseAuth.Guarantees.Revocation

/-!
# Idle and absolute expiry

`validate_and_touch` checks both deadlines of a session, `rebind_refresh` checks neither.  A session
past a deadline is therefore dead for good in the runs in which no refresh is redeemed for a
session that has lapsed, and can be revived in others.
-/

namespace EnterpriseAuth

open Effects Program SessionService

variable {T : Type} (env : Environment T) [CommRing T] [LinearOrder T]

instance (row : Session T) (now : T) : Decidable (row.Lapsed env now) :=
  inferInstanceAs (Decidable (_ ∨ _))

theorem Session.Lapsed.later {row : Session T} {now later : T} (lapsed : row.Lapsed env now)
    (order : now ≤ later) : row.Lapsed env later :=
  lapsed.imp order.trans' order.trans_lt'

/-! ## Dead sessions -/

/-- The session is stored, and is inactive or past a deadline. -/
def DeadIn (table : Table (Session.sessionUuid (T := T))) (now : T) (sid : Uuid) : Prop :=
  ∃ row, table.find sid = some row ∧ (row.isActive = false ∨ row.Lapsed env now)

variable {env}

theorem DeadIn.modify {table : Table (Session.sessionUuid (T := T))} {now : T} {sid : Uuid}
    (dead : DeadIn env table now sid) (other : Uuid) (change : Session T → Session T)
    (keeps : ∀ row, (change row).sessionUuid = row.sessionUuid)
    (stays : other = sid → ∀ row, table.find sid = some row →
      (row.isActive = false ∨ row.Lapsed env now) → (change row).isActive = false) :
    DeadIn env (table.modify other change keeps) now sid := by
  obtain ⟨row, found, died⟩ := dead
  unfold DeadIn
  rw [Table.find_modify, found]
  split
  next same => exact ⟨change row, rfl, .inl (stays same.symm row found died)⟩
  next => exact ⟨row, rfl, died⟩

theorem DeadIn.insert {table extended : Table (Session.sessionUuid (T := T))} {now : T} {sid : Uuid}
    {added : Session T} (dead : DeadIn env table now sid)
    (inserted : table.insert added = some extended) : DeadIn env extended now sid := by
  obtain ⟨row, found, died⟩ := dead
  exact ⟨row, Table.find_insert_of_found inserted found, died⟩

/-- Nothing that a request does to sessions revives a dead one. -/
theorem Follows.dead {permits : Permits T} {before after : Server T}
    (follows : Follows env permits before after) (same : before.committed = before.working)
    {sid : Uuid} (dead : DeadIn env before.working.sessions before.clock sid) :
    DeadIn env after.working.sessions before.clock sid ∧
      DeadIn env after.committed.sessions before.clock sid := by
  have kept : after.clock = before.clock ∧ DeadIn env after.working.sessions before.clock sid ∧
      DeadIn env after.committed.sessions before.clock sid := by
    refine follows.invariant (fun server => server.clock = before.clock ∧
      DeadIn env server.working.sessions before.clock sid ∧
      DeadIn env server.committed.sessions before.clock sid) ⟨rfl, dead, by rwa [same]⟩ ?_
    rintro first second ⟨clock, working, committed⟩ effect
    cases effect with
    | aside aside =>
      refine ⟨aside.clock.trans clock, ?_, by rwa [aside.committed]⟩
      rwa [show second.working.sessions = first.working.sessions from aside.working]
    | commit => exact ⟨clock, working, working⟩
    | @touch row found active fresh =>
      refine ⟨clock, working.modify _ (touched first.clock) (fun _ => rfl) ?_, committed⟩
      rintro rfl stored foundDead died
      obtain rfl : row = stored := Option.some.inj (found.symm.trans foundDead)
      rw [active, ← clock] at died
      exact absurd died (by simpa using fresh)
    | finish reason =>
      exact ⟨clock, working.modify _ (ended first.clock reason) (fun _ => rfl) fun _ _ _ _ => rfl,
        committed⟩
    | retire => exact ⟨clock, working, committed⟩
    | blacklist => exact ⟨clock, working, committed⟩
    | create _ _ _ inserted => exact ⟨clock, working.insert inserted, committed⟩
  exact kept.2

variable [FloorRing T]

/-- Nor does a refresh, unless it is redeemed for the dead session itself. -/
theorem RefreshOutcome.dead {start final : Server T} {request : HttpRequest}
    {result : Except AppError (Reply T)} (outcome : RefreshOutcome env start request result final)
    (same : start.committed = start.working) {sid : Uuid}
    (dead : DeadIn env start.working.sessions start.clock sid)
    (spares : ∀ claims row, request.refreshToken = some (.signed claims) → start.Redeems claims →
      claims.sid = some sid → start.working.sessions.find sid = some row →
      ¬ row.Lapsed env start.clock) :
    DeadIn env final.working.sessions start.clock sid ∧
      DeadIn env final.committed.sessions start.clock sid := by
  have both : DeadIn env start.working.sessions start.clock sid ∧
      DeadIn env start.committed.sessions start.clock sid := ⟨dead, by rwa [same]⟩
  have rotated (claims : Claims) :
      DeadIn env (start.rotated claims).working.sessions start.clock sid ∧
        DeadIn env (start.rotated claims).committed.sessions start.clock sid := by
    rw [rotated_working, rotated_committed]
    exact both
  cases outcome with
  | refused => exact both
  -- a replay can only end sessions
  | replayed =>
    obtain same | ⟨row, -, -, same⟩ := afterReplay_cases env start _
    · rw [same]
      exact both
    · have past := dead.modify row.sessionUuid (ended start.clock "refresh_replay")
        (fun _ => rfl) fun _ _ _ _ => rfl
      rw [same]
      exact ⟨past, past⟩
  | unbound => exact rotated _
  | @rebound claims other row presented live unlisted session found active owner csrf =>
    have redeems : start.Redeems claims := by
      refine ⟨live, unlisted, fun sid same => ?_⟩
      rw [session] at same
      cases same
      exact ⟨row, found, active, owner⟩
    refine ⟨?_, by rw [followed_committed]; exact both.2⟩
    obtain ⟨stored, foundDead, died⟩ := dead
    -- a rebound session comes back to life unless the assumption rules it out
    by_cases here : sid = other
    · subst here
      have fresh := spares claims stored presented redeems session foundDead
      obtain rfl : row = stored := Option.some.inj (found.symm.trans foundDead)
      rw [active] at died
      exact absurd died (by simpa using fresh)
    · refine ⟨stored, ?_, died⟩
      rw [find_followed, if_neg here]
      exact foundDead
  | sessionless => exact rotated _

/-! ## Runs -/

variable (env)

/-- The request does not redeem a refresh token for a session past a deadline. -/
def KeepsDeadlines (world : World T) : Event T → Prop
  | .request arrival => ∀ claims sid row, world.LetsPass env arrival → arrival.route = .refresh →
      arrival.http.refreshToken = some (.signed claims) → world.server.Redeems claims →
      claims.sid = some sid → world.db.sessions.find sid = some row → ¬ row.Lapsed env world.clock
  | _ => True

/-- Once a session is past a deadline, no request that relies on one of its tokens succeeds.  Logout,
which answers any token, hands out none and leaves the session dead. -/
def ExpiryHolds (runs : System (World T) (Event T)) : Prop :=
  ∀ world sid row, runs.Reachable world → world.db.sessions.find sid = some row →
    row.Lapsed env world.clock →
    ∀ later arrival next claims, runs.Leads world later → runs.step later (.request arrival) next →
      claims.sid = some sid →
      (arrival.ReliesOn claims → (later.exchange env arrival).Rejected) ∧
      (arrival.route = .logout → arrival.http.refreshToken = some (.signed claims) →
        (later.exchange env arrival).issued = [] ∧ DeadIn env next.db.sessions next.clock sid)

variable {env}

theorem Served.dead {world : World T} {arrival : Arrival} {result : Except AppError (Reply T)}
    {after : Server T} (served : Served env world arrival result after) {sid : Uuid}
    (dead : DeadIn env world.db.sessions world.clock sid)
    (keeps : KeepsDeadlines env world (.request arrival)) :
    DeadIn env after.committed.sessions world.clock sid := by
  have start {limited : Server T} (passes : world.Passes env arrival limited) :
      DeadIn env limited.working.sessions limited.clock sid := by
    rwa [passes.start.2.1, passes.start.2.2.1]
  have spares {limited : Server T} (passes : world.Passes env arrival limited)
      (isRefresh : arrival.route = .refresh) (claims : Claims) (row : Session T)
      (presented : arrival.http.refreshToken = some (.signed claims))
      (redeems : limited.Redeems claims) (session : claims.sid = some sid)
      (found : limited.working.sessions.find sid = some row) : ¬ row.Lapsed env limited.clock := by
    rw [passes.start.2.1] at found
    rw [passes.start.2.2.1]
    exact keeps claims sid row (World.passes_iff.mp passes).1 isRefresh presented
      (redeems.aside passes.aside) session found
  cases served with
  | refused aside _ => rwa [aside.committed]
  | failed passes _ follows =>
    exact passes.start.2.2.1 ▸ (follows.dead passes.start.1 (start passes)).2
  | answered passes _ follows _ =>
    exact passes.start.2.2.1 ▸ (follows.dead passes.start.1 (start passes)).1
  | refreshFailed passes isRefresh outcome =>
    exact passes.start.2.2.1 ▸
      (outcome.dead passes.start.1 (start passes) (spares passes isRefresh)).2
  | refreshAnswered passes isRefresh outcome =>
    exact passes.start.2.2.1 ▸
      (outcome.dead passes.start.1 (start passes) (spares passes isRefresh)).1

theorem leads_dead {before after : World T} {sid : Uuid}
    (leads : ((service env).guarded (KeepsDeadlines env)).Leads before after)
    (dead : DeadIn env before.db.sessions before.clock sid) :
    DeadIn env after.db.sessions after.clock sid := by
  refine System.Leads.invariant (fun world => DeadIn env world.db.sessions world.clock sid) leads
    dead ?_
  rintro world event next ⟨row, found, died⟩ ⟨keeps, step⟩
  cases step with
  | tick later => exact ⟨row, found, died.imp_right fun lapsed => lapsed.later env later⟩
  | @request arrival owned =>
    have kept := (served env world arrival).dead ⟨row, found, died⟩ keeps
    rwa [← (served env world arrival).clock] at kept
  | setUserActive => exact ⟨row, found, died⟩

/-- Expiry holds on every path of a run in which no refresh is redeemed for a lapsed session. -/
theorem expiry_holds : ExpiryHolds env ((service env).guarded (KeepsDeadlines env)) := by
  intro world sid row _ found lapsed later arrival next claims leads step session
  have dead : DeadIn env world.db.sessions world.clock sid := ⟨row, found, .inr lapsed⟩
  refine ⟨fun relies => ?_, fun routed _ =>
    ⟨logout_issues_nothing routed, leads_dead (leads.tail step) dead⟩⟩
  obtain ⟨stored, foundLater, died⟩ := leads_dead leads dead
  refine Exchange.rejected_of_not_ok fun reply answered => ?_
  obtain ⟨other, foundActive, active⟩ := relies.active session answered
  obtain rfl : other = stored := Option.some.inj (foundActive.symm.trans foundLater)
  have past : other.Lapsed env later.clock := died.resolve_left (by simp [active])
  cases relies with
  | access route routed presented =>
    have refused := refusesAccess_of_lapsed foundLater past arrival route claims routed presented
      session
    obtain ⟨⟨error, failed⟩, -⟩ := refused
    rw [answered] at failed
    cases failed
  | refresh routed presented =>
    obtain ⟨shown, presented', redeems⟩ := redeems_of_ok answered routed
    rw [presented] at presented'
    cases presented'
    obtain ⟨limited, final, passes, -⟩ := exchange_answered answered
    exact step.1 claims sid other (World.passes_iff.mp passes).1 routed presented redeems session
      foundLater past

/-! ## Alice's session -/

/-- `demo` with an idle timeout of two weeks. -/
def patient : Environment ℚ :=
  { demo with settings := { demo.settings with sessionIdleTimeoutMinutes := 20160 } }

/-- Alice uses her session for a week, and renews her tokens shortly before it expires. -/
def refreshLate : List (Event ℚ) :=
  [.request registerAlice, .tick 604000, .request (refreshWith aliceRefresh), .tick 604850]

def alicePastEnd : World ℚ := World.new.play patient refreshLate

/-- The access token that Alice is given in the last quarter of an hour of her session. -/
def aliceLastAccess : Claims :=
  { sub := 1, type := .access, jti := 7, iat := 604000, exp := 604900, sid := some 2 }

/-- The token outlives the session, and is refused. -/
theorem expiry_holds_for_alice : alicePastEnd.clock < (aliceLastAccess.exp : ℚ) ∧
    (alicePastEnd.exchange patient (withAccess aliceLastAccess .me)).Rejected := by
  have meets : World.new.Meets patient (KeepsDeadlines patient) refreshLate := by
    refine ⟨?_, trivial, ?_, trivial, trivial⟩
    · intro claims sid row _ routed
      cases routed
    · intro claims sid row _ _ presented _ session found
      cases presented
      cases session
      let busy : World ℚ := World.new.play patient [.request registerAlice, .tick 604000]
      have fresh : (busy.db.sessions.find 2).all fun row => !decide (row.Lapsed patient busy.clock) := by
        decide +kernel
      rw [show busy.db.sessions.find 2 = some row from found] at fresh
      rw [Option.all_some, Bool.not_eq_true', decide_eq_false_iff_not] at fresh
      exact fresh
  have reachable : ((service patient).guarded (KeepsDeadlines patient)).Reachable alicePastEnd :=
    reachable_guarded_play World.new_starts (by decide +kernel) meets
  have stored : (alicePastEnd.db.sessions.find 2).any (·.Lapsed patient alicePastEnd.clock) := by
    decide +kernel
  obtain ⟨row, found, lapsed⟩ := (Option.any_eq_true _ _).mp stored
  have possible : alicePastEnd.Possible (.request (withAccess aliceLastAccess .me)) := by decide +kernel
  have keeps : KeepsDeadlines patient alicePastEnd (.request (withAccess aliceLastAccess .me)) := by
    intro claims sid row _ routed
    cases routed
  have refused := (expiry_holds alicePastEnd 2 row reachable found (of_decide_eq_true lapsed) alicePastEnd
    _ _ aliceLastAccess (.refl alicePastEnd) ⟨keeps, World.step_next possible⟩ rfl).1
  exact ⟨by decide +kernel, refused (.access .me rfl rfl)⟩

/-- Alice has been idle for longer than half an hour. -/
def aliceIdle : World ℚ := World.new.play demo [.request registerAlice, .tick 2000]

/-- The access token of the pair that Alice is given in exchange for her first refresh token. -/
def aliceNextAccess : Claims :=
  { sub := 1, type := .access, jti := 7, iat := 2000, exp := 2900, sid := some 2 }

/-- A refresh brings the idle session back, and its next access token is accepted. -/
theorem expiry_fails_after_refresh : ¬ ExpiryHolds demo (service demo) := by
  intro holds
  have stored : (aliceIdle.db.sessions.find 2).any (·.Lapsed demo 2000) := by decide +kernel
  obtain ⟨row, found, lapsed⟩ := (Option.any_eq_true _ _).mp stored
  have reachable : (service demo).Reachable aliceIdle :=
    reachable_play World.new_starts (by decide +kernel)
  let revived : World ℚ := aliceIdle.play demo [.request (refreshWith aliceRefresh)]
  have leads : (service demo).Leads aliceIdle revived := leads_play (by decide +kernel)
  have possible : revived.Possible (.request (withAccess aliceNextAccess .me)) := by decide +kernel
  have rejected := (holds aliceIdle 2 row reachable found (of_decide_eq_true lapsed) revived _ _
    aliceNextAccess leads (World.step_next possible) rfl).1
  obtain ⟨⟨error, replied⟩, -⟩ := rejected (.access .me rfl rfl)
  have granted : (revived.exchange demo (withAccess aliceNextAccess .me)).reply.toBool = true := by
    decide +kernel
  rw [replied] at granted
  cases granted

end EnterpriseAuth
