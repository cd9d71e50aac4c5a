import EnterpriseAuth.Requests.Served

/-!
# Sessions over a run

No request takes a session row away, moves its owner or its absolute expiry, or revives it once it
is inactive.  The other way round, every row that is stored after a request was stored before it or
was created by it with permission.
-/

namespace EnterpriseAuth

open Effects Program SessionService

variable {T : Type} (env : Environment T)

/-- How a row may differ from what it was earlier. -/
structure Session.Continues (before after : Session T) : Prop where
  sessionUuid : after.sessionUuid = before.sessionUuid
  userId : after.userId = before.userId
  expiresAt : after.expiresAt = before.expiresAt
  staysInactive : before.isActive = false → after.isActive = false

namespace Session.Continues

theorem refl (row : Session T) : row.Continues row := ⟨rfl, rfl, rfl, id⟩

theorem trans {first second third : Session T} (left : first.Continues second)
    (right : second.Continues third) : first.Continues third :=
  ⟨right.sessionUuid.trans left.sessionUuid, right.userId.trans left.userId,
    right.expiresAt.trans left.expiresAt, fun inactive => right.staysInactive
      (left.staysInactive inactive)⟩

theorem touched (row : Session T) (now : T) : row.Continues (touched now row) :=
  ⟨rfl, rfl, rfl, id⟩

theorem ended (row : Session T) (now : T) (reason : String) : row.Continues (ended now reason row) :=
  ⟨rfl, rfl, rfl, fun _ => rfl⟩

theorem rebound (row : Session T) (now : T) (jti : Uuid) : row.Continues (rebound now jti row) :=
  ⟨rfl, rfl, rfl, id⟩

end Session.Continues

/-- Every row of the first table is continued in the second. -/
def SessionsContinue (before after : Table (Session.sessionUuid (T := T))) : Prop :=
  ∀ sid row, before.find sid = some row → ∃ row', after.find sid = some row' ∧ row.Continues row'

namespace SessionsContinue

theorem refl (table : Table (Session.sessionUuid (T := T))) : SessionsContinue table table :=
  fun _ row found => ⟨row, found, .refl row⟩

theorem trans {first second third : Table (Session.sessionUuid (T := T))}
    (left : SessionsContinue first second) (right : SessionsContinue second third) :
    SessionsContinue first third := by
  intro sid row found
  obtain ⟨middle, foundMiddle, continues⟩ := left sid row found
  obtain ⟨last, foundLast, continuesLast⟩ := right sid middle foundMiddle
  exact ⟨last, foundLast, continues.trans continuesLast⟩

theorem modify (table : Table (Session.sessionUuid (T := T))) (sid : Uuid)
    (change : Session T → Session T)
    (keeps : ∀ row, (change row).sessionUuid = row.sessionUuid)
    (continues : ∀ row : Session T, row.Continues (change row)) :
    SessionsContinue table (table.modify sid change keeps) := by
  intro other row found
  rw [Table.find_modify]
  split
  · exact ⟨change row, by rw [found]; rfl, continues row⟩
  · exact ⟨row, found, .refl row⟩

theorem insert {table extended : Table (Session.sessionUuid (T := T))} {added : Session T}
    (inserted : table.insert added = some extended) : SessionsContinue table extended := by
  intro sid row found
  exact ⟨row, Table.find_insert_of_found inserted found, .refl row⟩

end SessionsContinue

/-! ## Where rows come from -/

/-- The row belongs to the same user, session and refresh token. -/
structure Session.SameBinding (before after : Session T) : Prop where
  sessionUuid : after.sessionUuid = before.sessionUuid
  userId : after.userId = before.userId
  refreshTokenId : after.refreshTokenId = before.refreshTokenId

theorem Session.SameBinding.refl (row : Session T) : row.SameBinding row := ⟨rfl, rfl, rfl⟩

theorem Session.SameBinding.trans {first second third : Session T}
    (left : first.SameBinding second) (right : second.SameBinding third) :
    first.SameBinding third :=
  ⟨right.sessionUuid.trans left.sessionUuid, right.userId.trans left.userId,
    right.refreshTokenId.trans left.refreshTokenId⟩

/-- The row is a later state of one in the base table or of one that was created since. -/
def Session.Originates (base : Table (Session.sessionUuid (T := T))) (created : Session T → Prop)
    (row : Session T) : Prop :=
  ∃ origin : Session T, origin.SameBinding row ∧
    (base.find origin.sessionUuid = some origin ∨ created origin)

/-- Every row of the table originates. -/
def AllOriginate (base : Table (Session.sessionUuid (T := T))) (created : Session T → Prop)
    (table : Table (Session.sessionUuid (T := T))) : Prop :=
  ∀ sid row, table.find sid = some row → row.Originates base created

namespace AllOriginate

variable {base table : Table (Session.sessionUuid (T := T))} {created : Session T → Prop}

theorem refl (base : Table (Session.sessionUuid (T := T))) (created : Session T → Prop) :
    AllOriginate base created base := by
  intro sid row found
  cases Table.find_key found
  exact ⟨row, .refl row, .inl found⟩

theorem modify (originate : AllOriginate base created table) (sid : Uuid)
    (change : Session T → Session T)
    (keeps : ∀ row, (change row).sessionUuid = row.sessionUuid)
    (same : ∀ row : Session T, row.SameBinding (change row)) :
    AllOriginate base created (table.modify sid change keeps) := by
  intro other row found
  rw [Table.find_modify] at found
  split at found
  · cases stored : table.find other with
    | none => rw [stored] at found; cases found
    | some earlier =>
      rw [stored] at found
      cases found
      obtain ⟨origin, binding, source⟩ := originate other earlier stored
      exact ⟨origin, binding.trans (same earlier), source⟩
  · exact originate other row found

theorem insert (originate : AllOriginate base created table)
    {extended : Table (Session.sessionUuid (T := T))} {added : Session T}
    (inserted : table.insert added = some extended) (permitted : created added) :
    AllOriginate base created extended := by
  intro sid row found
  rw [Table.find_insert inserted] at found
  split at found
  · cases found
    exact ⟨added, .refl added, .inr permitted⟩
  · exact originate sid row found

theorem mono {wider : Session T → Prop} (originate : AllOriginate base created table)
    (weaker : ∀ row, created row → wider row) : AllOriginate base wider table := by
  intro sid row found
  obtain ⟨origin, same, source⟩ := originate sid row found
  exact ⟨origin, same, source.imp_right (weaker origin)⟩

end AllOriginate

section
variable [CommRing T] [LinearOrder T] {env}

/-- The rows that may have been created on the way to a server. -/
def Permits.Created (permits : Permits T) (server : Server T) (row : Session T) : Prop :=
  permits.creates row ∧ row.Numbered server.draws

omit [CommRing T] [LinearOrder T] in
theorem Permits.Created.mono {permits : Permits T} {before after : Server T} {row : Session T}
    (created : permits.Created before row) (draws : before.draws ≤ after.draws) :
    permits.Created after row :=
  ⟨created.1, created.2.1.trans_le draws, created.2.2.trans_le draws⟩

theorem Follows.originate {permits : Permits T} {before after : Server T}
    (follows : Follows env permits before after) (same : before.committed = before.working) :
    AllOriginate before.working.sessions (permits.Created after) after.working.sessions ∧
      AllOriginate before.working.sessions (permits.Created after) after.committed.sessions := by
  refine follows.invariant (fun server =>
    AllOriginate before.working.sessions (permits.Created server) server.working.sessions ∧
      AllOriginate before.working.sessions (permits.Created server) server.committed.sessions)
    ⟨.refl _ _, by rw [same]; exact .refl _ _⟩ ?_
  rintro first second ⟨working, committed⟩ effect
  cases effect with
  | aside aside =>
    have later (row : Session T) (created : permits.Created first row) :
        permits.Created second row := created.mono aside.draws
    rw [show second.working.sessions = first.working.sessions from aside.working, aside.committed]
    exact ⟨working.mono later, committed.mono later⟩
  | commit => exact ⟨working, working⟩
  | touch =>
    exact ⟨working.modify _ (touched first.clock) (fun _ => rfl) fun _ => ⟨rfl, rfl, rfl⟩, committed⟩
  | finish reason =>
    exact ⟨working.modify _ (ended first.clock reason) (fun _ => rfl) fun _ => ⟨rfl, rfl, rfl⟩,
      committed⟩
  | retire => exact ⟨working, committed⟩
  | blacklist => exact ⟨working, committed⟩
  | create permitted drawn begins inserted =>
    exact ⟨working.insert inserted ⟨permitted, drawn⟩, committed⟩

/-! ## Rows over a run -/

/-- Both the committed and the working rows continue the rows of a table. -/
def Server.Continues (base : Table (Session.sessionUuid (T := T))) (server : Server T) : Prop :=
  SessionsContinue base server.working.sessions ∧ SessionsContinue base server.committed.sessions

theorem Effect.continues {permits : Permits T} {before after : Server T}
    {base : Table (Session.sessionUuid (T := T))} (continues : before.Continues base)
    (effect : Effect env permits before after) : after.Continues base := by
  cases effect with
  | aside aside =>
    exact ⟨by rw [show after.working.sessions = _ from aside.working]; exact continues.1,
      by rw [aside.committed]; exact continues.2⟩
  | commit => exact ⟨continues.1, continues.1⟩
  | touch =>
    refine ⟨continues.1.trans ?_, continues.2⟩
    exact .modify _ _ (SessionService.touched before.clock) (fun _ => rfl) fun row => .touched row _
  | finish reason =>
    refine ⟨continues.1.trans ?_, continues.2⟩
    exact .modify _ _ (ended before.clock reason) (fun _ => rfl) fun row => .ended row _ _
  | retire => exact continues
  | blacklist => exact continues
  | create _ _ _ inserted => exact ⟨continues.1.trans (.insert inserted), continues.2⟩

theorem Follows.continues {permits : Permits T} {before after : Server T}
    (follows : Follows env permits before after) (same : before.committed = before.working) :
    after.Continues before.working.sessions :=
  follows.invariant _ ⟨.refl _, by rw [same]; exact .refl _⟩ fun _ _ => Effect.continues

variable [FloorRing T]

theorem RefreshOutcome.continues {start final : Server T} {request : HttpRequest}
    {result : Except AppError (Reply T)} (outcome : RefreshOutcome env start request result final)
    (same : start.committed = start.working) : final.Continues start.working.sessions := by
  have reflexive : start.Continues start.working.sessions := ⟨.refl _, by rw [same]; exact .refl _⟩
  have rotated (claims : Claims) : (start.rotated claims).Continues start.working.sessions := by
    constructor
    · rw [rotated_working]
      exact reflexive.1
    · rw [rotated_committed]
      exact reflexive.2
  cases outcome with
  | refused => exact reflexive
  | replayed =>
    obtain same | ⟨row, -, -, same⟩ := afterReplay_cases env start _
    · rw [same]
      exact reflexive
    · have ended := SessionsContinue.modify start.working.sessions row.sessionUuid
        (SessionService.ended start.clock "refresh_replay") (fun _ => rfl) fun row => .ended row _ _
      rw [same]
      exact ⟨ended, ended⟩
  | unbound => exact rotated _
  | @rebound claims =>
    refine ⟨(rotated claims).1.trans ?_, (rotated claims).2⟩
    exact .modify _ _ (SessionService.rebound start.clock (start.draws + 1)) (fun _ => rfl)
      fun row => .rebound row _ _
  | sessionless => exact rotated _

/-- A request continues the sessions, whatever it is and however it is answered. -/
theorem Served.continues {world : World T} {arrival : Arrival} {result : Except AppError (Reply T)}
    {after : Server T} (served : Served env world arrival result after) :
    SessionsContinue world.db.sessions after.committed.sessions := by
  have start {limited : Server T} (passes : world.Passes env arrival limited) :
      limited.committed = limited.working ∧ limited.working = world.db :=
    ⟨passes.aside.committed.trans passes.aside.working.symm, passes.aside.working⟩
  cases served with
  | refused aside _ =>
    rw [aside.committed]
    exact .refl _
  | failed passes _ follows =>
    obtain ⟨same, working⟩ := start passes
    exact working ▸ (follows.continues same).2
  | answered passes _ follows _ =>
    obtain ⟨same, working⟩ := start passes
    exact working ▸ (follows.continues same).1
  | refreshFailed passes _ outcome =>
    obtain ⟨same, working⟩ := start passes
    exact working ▸ (outcome.continues same).2
  | refreshAnswered passes _ outcome =>
    obtain ⟨same, working⟩ := start passes
    exact working ▸ (outcome.continues same).1

theorem World.Step.continues {before after : World T} {event : Event T}
    (step : World.Step env before event after) :
    SessionsContinue before.db.sessions after.db.sessions := by
  cases step with
  | tick => exact .refl _
  | request => exact (served env _ _).continues
  | setUserActive => exact .refl _

theorem RefreshOutcome.clock {start final : Server T} {request : HttpRequest}
    {result : Except AppError (Reply T)} (outcome : RefreshOutcome env start request result final) :
    final.clock = start.clock := by
  cases outcome with
  | refused => rfl
  | replayed =>
    obtain same | ⟨row, -, -, same⟩ := afterReplay_cases env start _
    · rw [same]
    · rw [same]
      rfl
  | unbound => exact rotated_clock _ _
  | rebound => exact rotated_clock _ _
  | sessionless => exact rotated_clock _ _

/-- A request is answered at the instant at which it arrives. -/
theorem Served.clock {world : World T} {arrival : Arrival} {result : Except AppError (Reply T)}
    {after : Server T} (served : Served env world arrival result after) :
    after.clock = world.clock := by
  cases served with
  | refused aside _ => exact aside.clock
  | failed passes _ follows => exact follows.clock.trans passes.aside.clock
  | answered passes _ follows _ => exact follows.clock.trans passes.aside.clock
  | refreshFailed passes _ outcome => exact outcome.clock.trans passes.aside.clock
  | refreshAnswered passes _ outcome => exact outcome.clock.trans passes.aside.clock

theorem World.Step.clock {before after : World T} {event : Event T}
    (step : World.Step env before event after) : before.clock ≤ after.clock := by
  cases step with
  | tick later => exact later
  | request => exact (served env _ _).clock.ge
  | setUserActive => exact le_rfl

theorem leads_continue {before after : World T} (leads : (service env).Leads before after) :
    SessionsContinue before.db.sessions after.db.sessions := by
  refine System.Leads.invariant
    (fun world => SessionsContinue before.db.sessions world.db.sessions) leads (.refl _) ?_
  intro world event next continues step
  exact continues.trans (World.Step.continues step)

/-- What holds of every exchange as it happens holds of all exchanges so far. -/
theorem history_of_reachable {world : World T} {holds : Exchange T → Prop}
    (each : ∀ (world : World T) (arrival : Arrival), (service env).Reachable world →
      (∀ token ∈ arrival.presented, world.holds token) → holds (world.exchange env arrival))
    (reachable : (service env).Reachable world) : ∀ exchange ∈ world.history, holds exchange := by
  refine System.Reachable.invariant (fun world => ∀ exchange ∈ world.history, holds exchange)
    reachable ?_ ?_
  · intro first starts exchange member
    simp [starts.noHistory] at member
  · intro before event after earlier all step
    cases step with
    | tick => exact all
    | request owned =>
      intro exchange member
      cases List.mem_cons.mp member with
      | inl latest => exact latest ▸ each before _ earlier owned
      | inr old => exact all exchange old
    | setUserActive => exact all

end

end EnterpriseAuth
