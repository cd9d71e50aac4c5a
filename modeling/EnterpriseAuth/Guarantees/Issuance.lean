import EnterpriseAuth.Guarantees.Continuity

/-!
# Tokens over a run

Every access or refresh token that the service has issued belongs to a stored session of its
subject, and no two refresh tokens share a JTI.
-/

namespace EnterpriseAuth

open Effects Program SessionService

variable {T : Type} {env : Environment T}

/-- The token belongs to a stored session of its subject. -/
def Claims.BoundIn (claims : Claims) (sessions : Table (Session.sessionUuid (T := T))) : Prop :=
  ∃ row : Session T, claims.sid = some row.sessionUuid ∧
    sessions.find row.sessionUuid = some row ∧ row.userId = claims.sub

theorem Claims.BoundIn.continue {claims : Claims} {before after : Table Session.sessionUuid}
    (bound : claims.BoundIn before) (continues : SessionsContinue (T := T) before after) :
    claims.BoundIn after := by
  obtain ⟨row, session, found, owner⟩ := bound
  obtain ⟨later, foundLater, same⟩ := continues _ row found
  refine ⟨later, ?_, ?_, ?_⟩
  · rw [session, same.sessionUuid]
  · rw [same.sessionUuid]
    exact foundLater
  · rw [same.userId, owner]

structure World.WellIssued (world : World T) : Prop where
  numbered : ∀ claims ∈ world.issued, claims.jti < world.draws
  bound : ∀ claims ∈ world.issued, claims.type ≠ .preAuth → claims.BoundIn world.db.sessions
  distinct : ∀ first ∈ world.issued, ∀ second ∈ world.issued, first.type = .refresh →
    second.type = .refresh → first.jti = second.jti → first = second
  tables : world.db.WellNumbered world.draws

/-- A refresh token that the service has issued names a session. -/
theorem World.WellIssued.session {world : World T} {claims : Claims} (wellIssued : world.WellIssued)
    (owned : claims ∈ world.issued) (isRefresh : claims.type = .refresh) : claims.sid ≠ none := by
  obtain ⟨row, session, -⟩ := wellIssued.bound claims owned (by simp [isRefresh])
  simp [session]

/-- The tokens that a request hands out: none, a pre-auth token, or a pair that belongs to a
stored and active session. -/
inductive Mints (world : World T) (after : Server T) : List Claims → Prop
  | nothing : Mints world after []
  | challenge {claims : Claims} (preAuth : claims.type = .preAuth) (since : world.draws ≤ claims.jti)
    (upTo : claims.jti < after.draws) : Mints world after [claims]
  | pair {pair : TokenPair} {sid : Uuid} {row : Session T}
    (found : after.committed.sessions.find sid = some row)
    (active : row.isActive = true) (current : row.refreshTokenId = pair.refresh.jti)
    (minted : pair.Minted world.draws after.draws row.userId (some sid)) :
    Mints world after pair.tokens

theorem TokenPair.Minted.notPreAuth {pair : TokenPair} {since upTo : ℕ} {userId : Uuid}
    {sid : Option Uuid} (minted : pair.Minted since upTo userId sid) {claims : Claims}
    (member : claims ∈ pair.tokens) : claims.type ≠ .preAuth := by
  simp only [TokenPair.tokens, List.mem_cons, List.not_mem_nil, or_false] at member
  rcases member with rfl | rfl
  · simp [minted.access]
  · simp [minted.refresh]

theorem TokenPair.Minted.refresh_eq {pair : TokenPair} {since upTo : ℕ} {userId : Uuid}
    {sid : Option Uuid} (minted : pair.Minted since upTo userId sid) {claims : Claims}
    (member : claims ∈ pair.tokens) (isRefresh : claims.type = .refresh) :
    claims = pair.refresh := by
  simp only [TokenPair.tokens, List.mem_cons, List.not_mem_nil, or_false] at member
  rcases member with rfl | rfl
  · rw [minted.access] at isRefresh; cases isRefresh
  · rfl

section
variable {world : World T} {after : Server T} {issued : List Claims}

theorem Mints.numbered (mints : Mints world after issued) {claims : Claims}
    (member : claims ∈ issued) : world.draws ≤ claims.jti ∧ claims.jti < after.draws := by
  cases mints with
  | nothing => cases member
  | challenge _ since upTo =>
    rw [List.mem_singleton] at member
    exact member ▸ ⟨since, upTo⟩
  | pair _ _ _ minted => exact minted.numbered claims member

theorem Mints.bound (mints : Mints world after issued) {claims : Claims}
    (member : claims ∈ issued) (notPreAuth : claims.type ≠ .preAuth) :
    claims.BoundIn after.committed.sessions := by
  cases mints with
  | nothing => cases member
  | challenge preAuth =>
    rw [List.mem_singleton] at member
    exact absurd (member ▸ preAuth) notPreAuth
  | pair found _ _ minted =>
    cases Table.find_key found
    obtain ⟨owner, session⟩ := minted.subject claims member
    exact ⟨_, session, found, owner.symm⟩

theorem Mints.current (mints : Mints world after issued) {claims : Claims}
    (member : claims ∈ issued) (isRefresh : claims.type = .refresh) :
    ∃ sid row, claims.sid = some sid ∧ after.committed.sessions.find sid = some row ∧
      row.refreshTokenId = claims.jti := by
  cases mints with
  | nothing => cases member
  | challenge preAuth =>
    rw [List.mem_singleton.mp member, preAuth] at isRefresh
    cases isRefresh
  | pair found _ current minted =>
    obtain rfl := minted.refresh_eq member isRefresh
    exact ⟨_, _, (minted.subject _ member).2, found, current⟩

theorem Mints.distinct (mints : Mints world after issued) {first second : Claims}
    (firstMember : first ∈ issued) (secondMember : second ∈ issued)
    (firstRefresh : first.type = .refresh) (secondRefresh : second.type = .refresh) :
    first = second := by
  cases mints with
  | nothing => cases firstMember
  | challenge =>
    rw [List.mem_singleton] at firstMember secondMember
    rw [firstMember, secondMember]
  | pair _ _ _ minted =>
    rw [minted.refresh_eq firstMember firstRefresh, minted.refresh_eq secondMember secondRefresh]

end

section
variable [CommRing T] [LinearOrder T]

theorem Follows.numbered {permits : Permits T} {before after : Server T}
    (follows : Follows env permits before after) (same : before.committed = before.working)
    (tables : before.working.WellNumbered before.draws) :
    after.working.WellNumbered after.draws ∧ after.committed.WellNumbered after.draws := by
  refine follows.invariant (fun server => server.working.WellNumbered server.draws ∧
    server.committed.WellNumbered server.draws) ⟨tables, by rw [same]; exact tables⟩ ?_
  rintro first second ⟨working, committed⟩ effect
  cases effect with
  | aside aside =>
    exact ⟨aside.wellNumbered working, by rw [aside.committed]; exact committed.mono aside.draws⟩
  | commit => exact ⟨working, working⟩
  | touch => exact ⟨⟨working.users, working.twoFactorAuth⟩, committed⟩
  | finish => exact ⟨⟨working.users, working.twoFactorAuth⟩, committed⟩
  | retire => exact ⟨working, committed⟩
  | blacklist => exact ⟨working, committed⟩
  | create => exact ⟨⟨working.users, working.twoFactorAuth⟩, committed⟩

variable [FloorRing T]

/-- Refresh writes no table but the sessions. -/
structure RefreshFrame (start final : Server T) : Prop where
  draws : start.draws ≤ final.draws
  committed : final.committed.users = start.committed.users ∧
    final.committed.twoFactorAuth = start.committed.twoFactorAuth
  working : final.working.users = start.working.users ∧
    final.working.twoFactorAuth = start.working.twoFactorAuth

theorem RefreshOutcome.frame {start final : Server T} {request : HttpRequest}
    {result : Except AppError (Reply T)} (outcome : RefreshOutcome env start request result final)
    (same : start.committed = start.working) : RefreshFrame start final := by
  have rotated (claims : Claims) : RefreshFrame start (start.rotated claims) := by
    have draws : (start.rotated claims).draws = start.draws + 2 :=
      congrArg (· + 2) (revokeToken_draws start claims)
    exact ⟨draws ▸ Nat.le_add_right _ 2, by rw [rotated_committed]; exact ⟨rfl, rfl⟩,
      by rw [rotated_working]; exact ⟨rfl, rfl⟩⟩
  cases outcome with
  | refused => exact ⟨le_rfl, ⟨rfl, rfl⟩, ⟨rfl, rfl⟩⟩
  | replayed =>
    obtain left | ⟨row, -, -, left⟩ := afterReplay_cases env start _
    · rw [left]
      exact ⟨le_rfl, ⟨rfl, rfl⟩, ⟨rfl, rfl⟩⟩
    · rw [left]
      exact ⟨le_rfl, by rw [same]; exact ⟨rfl, rfl⟩, ⟨rfl, rfl⟩⟩
  | unbound => exact rotated _
  | @rebound claims =>
    have frame := rotated claims
    exact ⟨frame.draws.trans (Nat.le_add_right _ 1), frame.committed, frame.working⟩
  | @sessionless claims =>
    have frame := rotated claims
    exact ⟨frame.draws.trans (Nat.le_add_right _ 1), frame.committed, frame.working⟩

/-! ## One request -/

section
variable {world : World T} {arrival : Arrival}

omit [FloorRing T] in
theorem World.Passes.start {limited : Server T} (passes : world.Passes env arrival limited) :
    limited.committed = limited.working ∧ limited.working = world.db ∧
      limited.clock = world.clock ∧ world.draws ≤ limited.draws :=
  ⟨passes.aside.committed.trans passes.aside.working.symm, passes.aside.working,
    passes.aside.clock, passes.aside.draws⟩

omit [FloorRing T] in
theorem World.Passes.tables {limited : Server T} (passes : world.Passes env arrival limited)
    (tables : world.db.WellNumbered world.draws) :
    limited.working.WellNumbered limited.draws :=
  passes.aside.wellNumbered tables

theorem Served.tables {result : Except AppError (Reply T)} {after : Server T}
    (served : Served env world arrival result after)
    (tables : world.db.WellNumbered world.draws) :
    world.draws ≤ after.draws ∧ after.committed.WellNumbered after.draws := by
  cases served with
  | refused aside _ =>
    exact ⟨aside.draws, by rw [aside.committed]; exact tables.mono aside.draws⟩
  | failed passes _ follows =>
    exact ⟨passes.start.2.2.2.trans follows.draws,
      (follows.numbered passes.start.1 (passes.tables tables)).2⟩
  | answered passes _ follows _ =>
    exact ⟨passes.start.2.2.2.trans follows.draws,
      (follows.numbered passes.start.1 (passes.tables tables)).1⟩
  | refreshFailed passes _ outcome =>
    have frame := outcome.frame passes.start.1
    have numbered := (passes.tables tables).mono frame.draws
    rw [← passes.start.1] at numbered
    exact ⟨passes.start.2.2.2.trans frame.draws,
      by rw [frame.committed.1]; exact numbered.users,
      by rw [frame.committed.2]; exact numbered.twoFactorAuth⟩
  | @refreshAnswered limited final reply passes _ outcome =>
    have frame := outcome.frame passes.start.1
    have numbered := (passes.tables tables).mono frame.draws
    refine ⟨passes.start.2.2.2.trans frame.draws, ?_, ?_⟩
    · rw [show final.commit.committed.users = limited.working.users from frame.working.1]
      exact numbered.users
    · rw [show final.commit.committed.twoFactorAuth = limited.working.twoFactorAuth
        from frame.working.2]
      exact numbered.twoFactorAuth

theorem Arrival.mem_presented_refresh {token : Token}
    (presented : arrival.http.refreshToken = some token) : token ∈ arrival.presented := by
  simp [Arrival.presented, presented]

variable (env) in
theorem exchange_mints (wellIssued : world.WellIssued)
    (owned : ∀ token ∈ arrival.presented, world.holds token) :
    Mints world (world.exchange env arrival).after (world.exchange env arrival).issued := by
  have served := served env world arrival
  unfold Exchange.issued
  generalize (world.exchange env arrival).reply = result at served
  generalize (world.exchange env arrival).after = after at served
  cases served with
  | refused => exact .nothing
  | failed => exact .nothing
  | refreshFailed => exact .nothing
  | @answered limited final reply passes other follows backed =>
    cases reply with
    | refreshed => exact backed.elim
    | page => exact .nothing
    | login reply =>
      obtain ⟨route, routed, sound⟩ := backed
      cases reply with
      | message => exact .nothing
      | challenge claims =>
        obtain ⟨preAuth, since, upTo, -⟩ := sound
        exact .challenge preAuth (passes.start.2.2.2.trans since) upTo
      | auth user csrf pair =>
        obtain ⟨row, allowed, bound⟩ := sound
        exact .pair bound.active.1 bound.active.2 bound.current
          (bound.minted.mono passes.start.2.2.2 le_rfl)
  | @refreshAnswered limited final reply passes isRefresh outcome =>
    cases outcome with
    | @rebound claims sid row presented live unlisted session found active owner csrf =>
      have minted : (limited.nextPair env claims).Minted world.draws
          (limited.followed env claims sid).draws claims.sub claims.sid := by
        rw [followed_draws]
        exact (minted_mintPair env limited claims.sub claims.rememberMe claims.sid).mono
          passes.start.2.2.2 (Nat.le_succ _)
      rw [session, ← owner] at minted
      let later : Session T := rebound limited.clock (limited.draws + 1) row
      have stored : (limited.followed env claims sid).working.sessions.find
          sid = some later := by
        rw [find_followed, if_pos rfl, found]
        rfl
      exact .pair stored active rfl minted
    -- tokens without a session are never issued
    | @sessionless claims presented live unlisted session csrf =>
      have held := owned _ (Arrival.mem_presented_refresh presented)
      exact absurd session (wellIssued.session held live.isRefresh)

/-! ## Runs -/

theorem World.mem_issued_afterRequest (claims : Claims) :
    claims ∈ (world.afterRequest env arrival).issued ↔
      claims ∈ (world.exchange env arrival).issued ∨ claims ∈ world.issued := by
  simp [World.issued, World.afterRequest]

theorem World.WellIssued.afterRequest (wellIssued : world.WellIssued)
    (owned : ∀ token ∈ arrival.presented, world.holds token) :
    (world.afterRequest env arrival).WellIssued := by
  have mints := exchange_mints env wellIssued owned
  have continues := (served env world arrival).continues
  obtain ⟨draws, tables⟩ := (served env world arrival).tables wellIssued.tables
  have elder (claims : Claims) (old : claims ∈ world.issued) (other : Claims)
      (new : other ∈ (world.exchange env arrival).issued) : claims.jti ≠ other.jti :=
    ((wellIssued.numbered claims old).trans_le (mints.numbered new).1).ne
  refine ⟨?_, ?_, ?_, tables⟩
  · intro claims member
    rcases (mem_issued_afterRequest claims).mp member with new | old
    · exact (mints.numbered new).2
    · exact (wellIssued.numbered claims old).trans_le draws
  · intro claims member notPreAuth
    rcases (mem_issued_afterRequest claims).mp member with new | old
    · exact mints.bound new notPreAuth
    · exact (wellIssued.bound claims old notPreAuth).continue continues
  · intro first firstMember second secondMember firstRefresh secondRefresh same
    rcases (mem_issued_afterRequest first).mp firstMember with newFirst | oldFirst <;>
      rcases (mem_issued_afterRequest second).mp secondMember with newSecond | oldSecond
    · exact mints.distinct newFirst newSecond firstRefresh secondRefresh
    · exact absurd same.symm (elder second oldSecond first newFirst)
    · exact absurd same (elder first oldFirst second newSecond)
    · exact wellIssued.distinct first oldFirst second oldSecond firstRefresh secondRefresh same

theorem World.WellIssued.step {event : Event T} {after : World T} (wellIssued : world.WellIssued)
    (step : World.Step env world event after) : after.WellIssued := by
  cases step with
  | tick => exact ⟨wellIssued.numbered, wellIssued.bound, wellIssued.distinct, wellIssued.tables⟩
  | request owned => exact wellIssued.afterRequest owned
  | setUserActive userId active =>
    refine ⟨wellIssued.numbered, wellIssued.bound, wellIssued.distinct, ?_,
      wellIssued.tables.twoFactorAuth⟩
    intro id user found
    rw [Table.find_modify] at found
    split at found
    · cases stored : world.db.users.find id with
      | none => rw [stored] at found; cases found
      | some earlier => exact wellIssued.tables.users id earlier stored
    · exact wellIssued.tables.users id user found

theorem wellIssued_of_reachable (reachable : (service env).Reachable world) : world.WellIssued := by
  refine System.Reachable.invariant World.WellIssued reachable ?_ ?_
  · intro first starts
    have empty : first.issued = [] := by simp [World.issued, starts.noHistory]
    exact ⟨by simp [empty], by simp [empty], by simp [empty], starts.wellNumbered⟩
  · exact fun before event after _ wellIssued step => wellIssued.step step

end

end

end EnterpriseAuth
