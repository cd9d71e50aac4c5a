import EnterpriseAuth.Guarantees.Blacklisting
import EnterpriseAuth.Guarantees.Scenario

/-!
# Rotation of refresh tokens

A rotated refresh token is kept on the blacklist for the whole seconds that are left of its life.
Between the end of the last whole second and its expiry it is usable again; outside these tails a
session has one usable refresh token, the one that its row names.
-/

namespace EnterpriseAuth

open Effects Program SessionService

variable {T : Type} {env : Environment T}

/-! ## Retired tokens -/

/-- No session of the table points at the refresh token. -/
def NoneCurrent (table : Table (Session.sessionUuid (T := T))) (jti : Uuid) : Prop :=
  ∀ sid row, table.find sid = some row → row.refreshTokenId ≠ jti

section
variable [LinearOrder T]

/-- The token is on the blacklist until the bound, and no session points at it. -/
structure Server.Retires (server : Server T) (jti : Uuid) (bound : T) : Prop where
  listed : server.redis.HoldsUntil (.revokedJti jti) bound
  working : NoneCurrent server.working.sessions jti
  committed : NoneCurrent server.committed.sessions jti

theorem Server.retires_iff {server : Server T} {jti : Uuid} {bound : T} :
    server.Retires jti bound ↔ server.Bars (fun _ => False) jti bound :=
  ⟨fun retires => ⟨retires.listed, retires.working, retires.committed⟩,
    fun bars => ⟨bars.listed, bars.working, bars.committed⟩⟩

end

/-! ## Rows after a request -/

section
variable [CommRing T] [LinearOrder T] [FloorRing T]

/-- The exchange gave out a new pair for the refresh token. -/
structure Exchange.Rotates (exchange : Exchange T) (claims : Claims) : Prop where
  routed : exchange.arrival.route = .refresh
  presented : exchange.arrival.http.refreshToken = some (.signed claims)
  answered : ∃ reply, exchange.reply = .ok reply

variable {world : World T} {arrival : Arrival}

/-- Where a row that is stored after a request comes from. -/
inductive RowSource (world : World T) (exchange : Exchange T) (sid : Uuid) (later : Session T) :
    Prop
  | kept {row : Session T} (found : world.db.sessions.find sid = some row)
    (same : row.SameBinding later)
  | opened {route : LoginRoute} (routed : exchange.arrival.route = .login route)
    (fresh : world.draws ≤ sid) (numbered : later.Numbered exchange.after.draws)
    (points : later.refreshTokenId = sid + 2)
  | rebound {claims : Claims} {pair : TokenPair} (rotates : exchange.Rotates claims)
    (session : claims.sid = some sid) (issued : exchange.issued = pair.tokens)
    (isRefresh : pair.refresh.type = .refresh) (named : pair.refresh.sid = some sid)
    (points : later.refreshTokenId = pair.refresh.jti)

theorem rowSource {sid : Uuid} {later : Session T}
    (found : (world.afterRequest env arrival).db.sessions.find sid = some later) :
    RowSource world (world.exchange env arrival) sid later := by
  have served := served env world arrival
  change (world.exchange env arrival).after.committed.sessions.find sid = some later at found
  -- what every route but the refresh can leave in the row
  have fromFollows {limited final : Server T} (passes : world.Passes env arrival limited)
      (originates : later.Originates limited.working.sessions
        ((arrival.permits env limited).Created final))
      (draws : final.draws = (world.exchange env arrival).after.draws) :
      RowSource world (world.exchange env arrival) sid later := by
    cases Table.find_key found
    obtain ⟨origin, same, stored | ⟨permitted, numbered⟩⟩ := originates
    · rw [passes.start.2.1, ← same.sessionUuid] at stored
      exact .kept stored same
    · obtain ⟨route, routed, opened, -⟩ := Arrival.creates permitted
      refine .opened routed ?_ ?_ ?_
      · rw [same.sessionUuid]
        exact passes.start.2.2.2.trans opened.fresh
      · rw [Session.Numbered, same.sessionUuid, same.refreshTokenId, ← draws]
        exact numbered
      · rw [same.refreshTokenId, same.sessionUuid, opened.refreshTokenId]
  -- the refresh, which may have committed before it failed
  have fromRefresh {limited final : Server T} {result : Except AppError (Reply T)}
      (passes : world.Passes env arrival limited) (isRefresh : arrival.route = .refresh)
      (replied : (world.exchange env arrival).reply = result)
      (outcome : RefreshOutcome env limited arrival.http result final)
      (found : final.working.sessions.find sid = some later ∨
        final.committed.sessions.find sid = some later) :
      RowSource world (world.exchange env arrival) sid later := by
    obtain ⟨row, stored, same | ⟨claims, csrf, presented, session, rfl, points⟩⟩ :=
      outcome.row passes.start.1 found
    · rw [passes.start.2.1] at stored
      exact .kept stored same
    · have issued : (world.exchange env arrival).issued = (limited.nextPair env claims).tokens := by
        unfold Exchange.issued
        rw [replied]
        rfl
      exact .rebound ⟨isRefresh, presented, _, replied⟩ session issued rfl session points
  generalize replied : (world.exchange env arrival).reply = result at served
  generalize left : (world.exchange env arrival).after = after at served found
  cases served with
  | refused aside _ =>
    rw [aside.committed] at found
    exact .kept found (.refl later)
  | failed passes _ follows =>
    exact fromFollows passes ((follows.originate passes.start.1).2 sid later found) (by rw [left])
  | answered passes _ follows _ =>
    exact fromFollows passes ((follows.originate passes.start.1).1 sid later found) (by rw [left]; rfl)
  | refreshFailed passes isRefresh outcome =>
    exact fromRefresh passes isRefresh replied outcome (.inr found)
  | refreshAnswered passes isRefresh outcome =>
    exact fromRefresh passes isRefresh replied outcome (.inl found)

/-! ## Numbered rows -/

/-- The keys and the refresh tokens of the stored sessions have been drawn. -/
def World.SessionsNumbered (world : World T) : Prop :=
  ∀ sid row, world.db.sessions.find sid = some row → row.Numbered world.draws

/-- A refresh token that is exchanged names a stored session. -/
theorem World.WellIssued.rotating (wellIssued : world.WellIssued)
    (owned : ∀ token ∈ arrival.presented, world.holds token) {claims : Claims}
    (rotates : (world.exchange env arrival).Rotates claims) :
    ∃ row, claims.sid = some row.sessionUuid ∧
      world.db.sessions.find row.sessionUuid = some row := by
  obtain ⟨routed, presented, reply, answered⟩ := rotates
  obtain ⟨shown, presented', redeems⟩ := redeems_of_ok answered routed
  obtain rfl : claims = shown :=
    Token.signed.inj (Option.some.inj (presented.symm.trans presented'))
  have issued : claims ∈ world.issued := owned _ (Arrival.mem_presented_refresh presented)
  obtain ⟨row, session, found, -⟩ := wellIssued.bound claims issued (by simp [redeems.live.isRefresh])
  exact ⟨row, session, found⟩

theorem numbered_afterRequest (numbered : world.SessionsNumbered) (wellIssued : world.WellIssued)
    (owned : ∀ token ∈ arrival.presented, world.holds token) {sid : Uuid} {later : Session T}
    (found : (world.afterRequest env arrival).db.sessions.find sid = some later) :
    later.Numbered (world.afterRequest env arrival).draws := by
  have mints := exchange_mints env wellIssued owned
  obtain ⟨draws, -⟩ := (served env world arrival).tables wellIssued.tables
  cases rowSource found with
  | @kept row foundRow same =>
    obtain ⟨sessionUuid, refreshTokenId⟩ := numbered sid row foundRow
    rw [Session.Numbered, same.sessionUuid, same.refreshTokenId]
    exact ⟨sessionUuid.trans_le draws, refreshTokenId.trans_le draws⟩
  | opened _ _ drawn => exact drawn
  | @rebound claims pair rotates session issued isRefresh named points =>
    obtain ⟨row, named', foundRow⟩ := wellIssued.rotating owned rotates
    obtain rfl : sid = row.sessionUuid := Option.some.inj (session.symm.trans named')
    have member : pair.refresh ∈ (world.exchange env arrival).issued := by
      rw [issued]
      simp [TokenPair.tokens]
    constructor
    · rw [Table.find_key found]
      exact (numbered _ row foundRow).1.trans_le draws
    · rw [points]
      exact (mints.numbered member).2

theorem numbered_of_reachable (reachable : (service env).Reachable world) :
    world.SessionsNumbered := by
  refine System.Reachable.invariant World.SessionsNumbered reachable ?_ ?_
  · intro first starts sid row found
    rw [starts.noSessions] at found
    cases found
  · intro before event after earlier numbered step
    cases step with
    | tick => exact numbered
    | request owned =>
      exact fun sid row found =>
        numbered_afterRequest numbered (wellIssued_of_reachable earlier) owned found
    | setUserActive => exact numbered

/-! ## Usable tokens -/

/-- `verify_refresh` accepts the token. -/
def World.Usable (world : World T) (claims : Claims) : Prop :=
  ((TokenService.verifyRefresh (.signed claims)).run handle world.server).1 = .ok claims

omit [FloorRing T] in
theorem World.usable_iff {claims : Claims} :
    world.Usable claims ↔
      claims.LiveRefresh world.clock ∧ ¬ world.server.Blacklisted claims.jti := by
  obtain ⟨result, ran, check⟩ := run_verifyRefresh world.server (.signed claims)
  unfold World.Usable
  rw [ran]
  cases check with
  | accepted live unlisted => exact iff_of_true rfl ⟨live, unlisted⟩
  | replayed live listed => exact iff_of_false nofun fun usable => usable.2 listed
  | rejected invalid => exact iff_of_false nofun fun usable => invalid claims rfl usable.1

/-- The end of the blacklist entry of a token that is rotated at an instant. -/
def Claims.coveredUntil (claims : Claims) (since : T) : T :=
  since + (pyInt ((claims.exp : T) - since) : T)

/-- The instant is in the rest of the token's life that its blacklist entry does not cover. -/
def Claims.InTail (claims : Claims) (since now : T) : Prop :=
  claims.coveredUntil since ≤ now ∧ now < (claims.exp : T)

/-- A session has one usable refresh token, and a rotated one is not usable. -/
structure World.RotatesExclusively (world : World T) : Prop where
  current : ∀ sid row, world.db.sessions.find sid = some row → row.isActive = true →
    ∀ claims ∈ world.issued, claims.type = .refresh → claims.sid = some sid →
      world.Usable claims → claims.jti = row.refreshTokenId
  unique : ∀ sid, ∀ first ∈ world.issued, ∀ second ∈ world.issued, first.type = .refresh →
    second.type = .refresh → first.sid = some sid → second.sid = some sid →
      world.Usable first → world.Usable second → first = second
  rotated : ∀ exchange ∈ world.history, ∀ claims, exchange.Rotates claims → ¬ world.Usable claims

def RotationHolds (runs : System (World T) (Event T)) : Prop :=
  ∀ world, runs.Reachable world → world.RotatesExclusively

variable (env) in
/-- The clock does not stop in the tail of a rotated token, and no token is rotated in the last
second of its life, which is all tail. -/
def AvoidsTails (world : World T) : Event T → Prop
  | .tick instant => ∀ exchange ∈ world.history, ∀ claims, exchange.Rotates claims →
      ¬ claims.InTail exchange.before.clock instant
  | .request arrival => ∀ claims, world.LetsPass env arrival → arrival.route = .refresh →
      arrival.http.refreshToken = some (.signed claims) → world.server.Redeems claims →
      world.clock + 1 ≤ (claims.exp : T)
  | .setUserActive .. => True

/-! ## The invariant -/

structure World.Rotations (world : World T) : Prop where
  rotated : ∀ exchange ∈ world.history, ∀ claims, exchange.Rotates claims →
    (claims ∈ world.issued ∧ claims.type = .refresh) ∧
      world.server.Retires claims.jti (claims.coveredUntil exchange.before.clock)
  outsideTails : ∀ exchange ∈ world.history, ∀ claims, exchange.Rotates claims →
    ¬ claims.InTail exchange.before.clock world.clock
  current : ∀ claims ∈ world.issued, claims.type = .refresh →
    (∃ exchange ∈ world.history, exchange.Rotates claims) ∨
      ∃ sid row, claims.sid = some sid ∧ world.db.sessions.find sid = some row ∧
        row.refreshTokenId = claims.jti
  owner : ∀ sid row, world.db.sessions.find sid = some row → ∀ claims ∈ world.issued,
    claims.type = .refresh → claims.jti = row.refreshTokenId → claims.sid = some sid
  rows : ∀ sid row, world.db.sessions.find sid = some row → row.Numbered world.draws

namespace World.Rotations

theorem not_usable (rotations : world.Rotations) {exchange : Exchange T}
    (member : exchange ∈ world.history) {claims : Claims} (rotates : exchange.Rotates claims) :
    ¬ world.Usable claims := by
  intro usable
  obtain ⟨live, unlisted⟩ := World.usable_iff.mp usable
  have covered : world.clock < claims.coveredUntil exchange.before.clock := by
    by_contra tail
    exact rotations.outsideTails exchange member claims rotates ⟨not_lt.mp tail, live.unexpired⟩
  exact unlisted ((rotations.rotated exchange member claims rotates).2.listed _ covered)

theorem usable_current (rotations : world.Rotations) {claims : Claims}
    (issued : claims ∈ world.issued) (usable : world.Usable claims) :
    ∃ sid row, claims.sid = some sid ∧ world.db.sessions.find sid = some row ∧
      row.refreshTokenId = claims.jti := by
  have isRefresh := (World.usable_iff.mp usable).1.isRefresh
  rcases rotations.current claims issued isRefresh with ⟨exchange, member, rotates⟩ | current
  · exact absurd usable (rotations.not_usable member rotates)
  · exact current

theorem exclusive (rotations : world.Rotations) (wellIssued : world.WellIssued) :
    world.RotatesExclusively where
  current sid row found _ claims issued isRefresh session usable := by
    obtain ⟨other, stored, named, foundStored, current⟩ := rotations.usable_current issued usable
    obtain rfl : sid = other := Option.some.inj (session.symm.trans named)
    obtain rfl : row = stored := Option.some.inj (found.symm.trans foundStored)
    exact current.symm
  unique sid first firstIssued second secondIssued firstRefresh secondRefresh firstSession
      secondSession firstUsable secondUsable := by
    obtain ⟨one, row, named, found, current⟩ := rotations.usable_current firstIssued firstUsable
    obtain ⟨two, other, named', found', current'⟩ :=
      rotations.usable_current secondIssued secondUsable
    obtain rfl : sid = one := Option.some.inj (firstSession.symm.trans named)
    obtain rfl : sid = two := Option.some.inj (secondSession.symm.trans named')
    obtain rfl : row = other := Option.some.inj (found.symm.trans found')
    exact wellIssued.distinct first firstIssued second secondIssued firstRefresh secondRefresh
      (current.symm.trans current')
  rotated exchange member claims := rotations.not_usable member

/-- A refresh token that a request can still use is none of those that have been rotated. -/
theorem others (rotations : world.Rotations) (wellIssued : world.WellIssued)
    {exchange : Exchange T} (member : exchange ∈ world.history) {claims shown : Claims}
    (rotates : exchange.Rotates claims) (owned : shown ∈ world.issued)
    (live : shown.LiveRefresh world.clock) (unlisted : ¬ world.server.Blacklisted shown.jti) :
    shown.jti ≠ claims.jti := by
  intro same
  obtain ⟨⟨issued, isRefresh⟩, -⟩ := rotations.rotated exchange member claims rotates
  obtain rfl := wellIssued.distinct shown owned claims issued live.isRefresh isRefresh same
  exact rotations.not_usable member rotates (World.usable_iff.mpr ⟨live, unlisted⟩)

/-- A request keeps the rotated tokens retired. -/
theorem retires_afterRequest (rotations : world.Rotations) (wellIssued : world.WellIssued)
    (owned : ∀ token ∈ arrival.presented, world.holds token) {exchange : Exchange T}
    (member : exchange ∈ world.history) {claims : Claims} (rotates : exchange.Rotates claims) :
    (world.afterRequest env arrival).server.Retires claims.jti
      (claims.coveredUntil exchange.before.clock) := by
  obtain ⟨⟨issued, -⟩, retires⟩ := rotations.rotated exchange member claims rotates
  rw [Server.retires_iff] at retires ⊢
  refine bars_afterRequest retires (wellIssued.numbered claims issued) ?_
  intro shown presented live unlisted
  exact rotations.others wellIssued member rotates
    (owned _ (Arrival.mem_presented_refresh presented)) live unlisted

/-- The token that a request rotates is owned, was usable, and was the current one of its session. -/
theorem rotating (rotations : world.Rotations)
    (owned : ∀ token ∈ arrival.presented, world.holds token) {claims : Claims}
    (rotates : (world.exchange env arrival).Rotates claims) :
    claims ∈ world.issued ∧ world.LetsPass env arrival ∧ world.server.Redeems claims ∧
      ∃ sid row, claims.sid = some sid ∧ world.db.sessions.find sid = some row ∧
        row.refreshTokenId = claims.jti := by
  obtain ⟨routed, presented, reply, answered⟩ := rotates
  obtain ⟨shown, presented', redeems⟩ := redeems_of_ok answered routed
  obtain rfl : claims = shown :=
    Token.signed.inj (Option.some.inj (presented.symm.trans presented'))
  have issued : claims ∈ world.issued := owned _ (Arrival.mem_presented_refresh presented)
  obtain ⟨limited, final, passes, -⟩ := exchange_answered answered
  exact ⟨issued, (World.passes_iff.mp passes).1, redeems,
    rotations.usable_current issued (World.usable_iff.mpr ⟨redeems.live, redeems.unlisted⟩)⟩

/-- What was current is current or has been rotated by the request. -/
theorem current_afterRequest (rotations : world.Rotations) (wellIssued : world.WellIssued)
    (owned : ∀ token ∈ arrival.presented, world.holds token) {claims : Claims}
    (issued : claims ∈ (world.afterRequest env arrival).issued) (isRefresh : claims.type = .refresh) :
    (∃ exchange ∈ (world.afterRequest env arrival).history, exchange.Rotates claims) ∨
      ∃ sid row, claims.sid = some sid ∧
        (world.afterRequest env arrival).db.sessions.find sid = some row ∧
        row.refreshTokenId = claims.jti := by
  rcases (World.mem_issued_afterRequest claims).mp issued with new | old
  · have mints := exchange_mints env wellIssued owned
    exact .inr (mints.current new isRefresh)
  rcases rotations.current claims old isRefresh with
    ⟨exchange, member, rotates⟩ | ⟨sid, row, session, found, current⟩
  · exact .inl ⟨exchange, List.mem_cons_of_mem _ member, rotates⟩
  obtain ⟨later, foundLater, continues⟩ := (served env world arrival).continues sid row found
  cases rowSource foundLater with
  | kept foundRow same =>
    obtain rfl := Option.some.inj (found.symm.trans foundRow)
    exact .inr ⟨sid, later, session, foundLater, same.refreshTokenId.trans current⟩
  | opened _ fresh =>
    have numbered := (rotations.rows sid row found).1
    rw [Table.find_key found] at numbered
    exact absurd numbered (not_lt.mpr fresh)
  | @rebound shown pair rotates named =>
    obtain ⟨shownIssued, -, redeems, other, stored, named', foundStored, current'⟩ :=
      rotations.rotating owned rotates
    obtain rfl : sid = other := Option.some.inj (named.symm.trans named')
    obtain rfl : row = stored := Option.some.inj (found.symm.trans foundStored)
    obtain rfl : claims = shown := wellIssued.distinct claims old shown shownIssued isRefresh
      redeems.live.isRefresh (current.symm.trans current')
    exact .inl ⟨_, List.mem_cons_self, rotates⟩

theorem owner_afterRequest (rotations : world.Rotations) (wellIssued : world.WellIssued)
    (owned : ∀ token ∈ arrival.presented, world.holds token) {sid : Uuid} {row : Session T}
    (found : (world.afterRequest env arrival).db.sessions.find sid = some row) {claims : Claims}
    (issued : claims ∈ (world.afterRequest env arrival).issued) (isRefresh : claims.type = .refresh)
    (same : claims.jti = row.refreshTokenId) : claims.sid = some sid := by
  have mints := exchange_mints env wellIssued owned
  -- the refresh token of a pair that a session is rebound to names the session
  have ofPair {other : Uuid} {pair : TokenPair} (new : claims ∈ (world.exchange env arrival).issued)
      (issues : (world.exchange env arrival).issued = pair.tokens)
      (pairRefresh : pair.refresh.type = .refresh) (named : pair.refresh.sid = some other) :
      claims.sid = some other := by
    have member : pair.refresh ∈ (world.exchange env arrival).issued := by
      rw [issues]
      simp [TokenPair.tokens]
    rw [mints.distinct new member isRefresh pairRefresh, named]
  rcases (World.mem_issued_afterRequest claims).mp issued with new | old
  · obtain ⟨own, stored, named, foundStored, current⟩ := mints.current new isRefresh
    have fresh := (mints.numbered new).1
    cases rowSource found with
    | kept foundRow binding =>
      have numbered := (rotations.rows sid _ foundRow).2
      rw [← binding.refreshTokenId, ← same] at numbered
      exact absurd numbered (not_lt.mpr fresh)
    | opened routed _ _ points =>
      cases rowSource foundStored with
      | kept foundRow binding =>
        have numbered := (rotations.rows own _ foundRow).2
        rw [← binding.refreshTokenId, current] at numbered
        exact absurd numbered (not_lt.mpr fresh)
      | opened _ _ _ points' =>
        have equal : own + 2 = sid + 2 := by rw [← points', ← points, current, same]
        rw [named, Nat.add_right_cancel equal]
      | rebound rotates =>
        rw [rotates.routed] at routed
        cases routed
    | rebound _ _ issues pairRefresh named => exact ofPair new issues pairRefresh named
  · have known := wellIssued.numbered claims old
    cases rowSource found with
    | kept foundRow binding =>
      exact rotations.owner sid _ foundRow claims old isRefresh
        (same.trans binding.refreshTokenId)
    | opened _ fresh _ points =>
      rw [same, points] at known
      exact absurd known (not_lt.mpr (fresh.trans (Nat.le_add_right sid 2)))
    | @rebound _ pair _ _ issues _ _ points =>
      have member : pair.refresh ∈ (world.exchange env arrival).issued := by
        rw [issues]
        simp [TokenPair.tokens]
      rw [same, points] at known
      exact absurd known (not_lt.mpr (mints.numbered member).1)

end World.Rotations

/-! ## Runs -/

section
variable [IsStrictOrderedRing T]

omit [IsStrictOrderedRing T] in
theorem pyInt_pos {value : T} (order : 1 ≤ value) : 0 < pyInt value := by
  unfold pyInt
  rw [if_pos (zero_le_one.trans order)]
  exact Int.floor_pos.mpr order

omit [IsStrictOrderedRing T] in
/-- A token with at least a second left is listed for the whole seconds. -/
theorem revokeToken_listed {start : Server T} {claims : Claims}
    (positive : 0 < pyInt ((claims.exp : T) - start.clock)) :
    (start.revokeToken claims).redis.HoldsUntil (.revokedJti claims.jti)
      (claims.coveredUntil start.clock) := by
  have seconds : ((pyInt ((claims.exp : T) - start.clock)).toNat : T) =
      (pyInt ((claims.exp : T) - start.clock) : T) := by
    rw [← Int.cast_natCast, Int.toNat_of_nonneg positive.le]
  have revoked : (start.revokeToken claims).redis = start.redis.put (.revokedJti claims.jti)
      ⟨.flag, some (claims.coveredUntil start.clock)⟩ := by
    unfold Server.revokeToken Claims.coveredUntil
    rw [← seconds]
    exact congrArg Server.redis (if_pos positive)
  rw [revoked]
  exact ExpiringStore.holdsUntil_put start.redis (.revokedJti claims.jti) .flag
    (claims.coveredUntil start.clock)

omit [IsStrictOrderedRing T] in
theorem followed_listed {start : Server T} {claims : Claims} (sid : Uuid)
    (positive : 0 < pyInt ((claims.exp : T) - start.clock)) :
    (start.followed env claims sid).redis.HoldsUntil (.revokedJti claims.jti)
      (claims.coveredUntil start.clock) :=
  (revokeToken_listed positive).put_other _ Key.noConfusion

/-- The token that a request rotates is retired from then on. -/
theorem World.Rotations.newlyRetired (rotations : world.Rotations) (wellIssued : world.WellIssued)
    (owned : ∀ token ∈ arrival.presented, world.holds token) {claims : Claims}
    (rotates : (world.exchange env arrival).Rotates claims)
    (whole : world.clock + 1 ≤ (claims.exp : T)) :
    (world.afterRequest env arrival).server.Retires claims.jti
      (claims.coveredUntil world.clock) := by
  obtain ⟨issued, -, redeems, -⟩ := rotations.rotating owned rotates
  obtain ⟨routed, presented, reply, answered⟩ := rotates
  have served := served env world arrival
  change Server.Retires (World.server { world.afterRequest env arrival with
    db := (world.exchange env arrival).after.committed
    redis := (world.exchange env arrival).after.redis }) _ _
  rw [answered] at served
  generalize (world.exchange env arrival).after = after at served ⊢
  cases served with
  | answered _ other => exact absurd routed other
  | @refreshAnswered limited final _ passes isRefresh outcome =>
    obtain ⟨-, working, clock, draws⟩ := passes.start
    have old : claims.jti < limited.draws := (wellIssued.numbered claims issued).trans_le draws
    cases outcome with
    | @rebound shown sid row presented' live unlisted session found active owner csrf =>
      obtain rfl : claims = shown :=
        Token.signed.inj (Option.some.inj (presented.symm.trans presented'))
      -- a whole second is left, so the SET has a lifetime
      have positive : 0 < pyInt ((claims.exp : T) - limited.clock) := by
        rw [clock]
        exact pyInt_pos (le_sub_iff_add_le'.mpr whole)
      have none : NoneCurrent (limited.followed env claims sid).working.sessions claims.jti := by
        intro other later stored
        rw [find_followed] at stored
        split at stored
        next here =>
          rw [here, found] at stored
          cases stored
          exact (Nat.lt_succ_of_lt old).ne'
        -- the row that a token names owns its identifier, so no other row points at it
        next elsewhere =>
          rw [working] at stored
          intro same
          have named := rotations.owner other later stored claims issued redeems.live.isRefresh
            same.symm
          exact elsewhere (Option.some.inj (named.symm.trans session))
      exact ⟨clock ▸ followed_listed sid positive, none, none⟩
    | @sessionless shown presented' live unlisted session csrf =>
      obtain rfl : claims = shown :=
        Token.signed.inj (Option.some.inj (presented.symm.trans presented'))
      exact absurd session (wellIssued.session issued redeems.live.isRefresh)

theorem World.Rotations.afterRequest (rotations : world.Rotations) (wellIssued : world.WellIssued)
    (owned : ∀ token ∈ arrival.presented, world.holds token)
    (avoids : AvoidsTails env world (.request arrival)) :
    (world.afterRequest env arrival).Rotations where
  rotated exchange member claims rotates := by
    rcases List.mem_cons.mp member with rfl | earlier
    · obtain ⟨issued, passes, redeems, -⟩ := rotations.rotating owned rotates
      have whole := avoids claims passes rotates.routed rotates.presented redeems
      exact ⟨⟨(World.mem_issued_afterRequest claims).mpr (.inr issued), redeems.live.isRefresh⟩,
        rotations.newlyRetired wellIssued owned rotates whole⟩
    · obtain ⟨⟨issued, isRefresh⟩, -⟩ := rotations.rotated exchange earlier claims rotates
      exact ⟨⟨(World.mem_issued_afterRequest claims).mpr (.inr issued), isRefresh⟩,
        rotations.retires_afterRequest wellIssued owned earlier rotates⟩
  outsideTails exchange member claims rotates := by
    rw [show (world.afterRequest env arrival).clock = world.clock from (served env _ _).clock]
    rcases List.mem_cons.mp member with rfl | earlier
    · obtain ⟨-, passes, redeems, -⟩ := rotations.rotating owned rotates
      have whole := avoids claims passes rotates.routed rotates.presented redeems
      have positive : (0 : T) < (pyInt ((claims.exp : T) - world.clock) : T) :=
        Int.cast_pos.mpr (pyInt_pos (le_sub_iff_add_le'.mpr whole))
      rintro ⟨ended, -⟩
      exact absurd (lt_add_of_pos_right world.clock positive) (not_lt.mpr ended)
    · exact rotations.outsideTails exchange earlier claims rotates
  current claims issued isRefresh :=
    rotations.current_afterRequest wellIssued owned issued isRefresh
  owner sid row found claims issued isRefresh same :=
    rotations.owner_afterRequest wellIssued owned found issued isRefresh same
  rows _ _ found := numbered_afterRequest rotations.rows wellIssued owned found

theorem rotations_of_reachable
    (reachable : ((service env).guarded (AvoidsTails env)).Reachable world) : world.Rotations := by
  refine System.Reachable.invariant World.Rotations reachable ?_ ?_
  · intro first starts
    have issued : first.issued = [] := by simp [World.issued, starts.noHistory]
    exact {
      rotated := by simp [starts.noHistory]
      outsideTails := by simp [starts.noHistory]
      current := by simp [issued]
      owner := by simp [starts.noSessions]
      rows := by simp [starts.noSessions] }
  · rintro before event after earlier rotations ⟨avoids, step⟩
    have wellIssued := wellIssued_of_reachable earlier.of_guarded
    cases step with
    | tick =>
      exact {
        rotated := fun exchange member claims rotates =>
          have rotated := rotations.rotated exchange member claims rotates
          ⟨rotated.1, rotated.2.listed, rotated.2.working, rotated.2.committed⟩
        outsideTails := avoids
        current := rotations.current
        owner := rotations.owner
        rows := rotations.rows }
    | request owned => exact rotations.afterRequest wellIssued owned avoids
    | setUserActive =>
      exact {
        rotated := fun exchange member claims rotates =>
          have rotated := rotations.rotated exchange member claims rotates
          ⟨rotated.1, rotated.2.listed, rotated.2.working, rotated.2.committed⟩
        outsideTails := rotations.outsideTails
        current := rotations.current
        owner := rotations.owner
        rows := rotations.rows }

/-- Rotation is exclusive in the runs whose clock avoids the tails. -/
theorem rotation_is_exclusive : RotationHolds ((service env).guarded (AvoidsTails env)) :=
  fun _ reachable => (rotations_of_reachable reachable).exclusive
    (wellIssued_of_reachable reachable.of_guarded)

end

end

/-! ## Alice's refresh tokens -/

/-- The clock stops before the tails of all refresh tokens that were presented begin. -/
theorem avoidsTails_tick {world : World ℚ} {instant : ℚ}
    (clear : world.history.all fun exchange => exchange.arrival.http.refreshToken.all fun
      | .signed claims => instant < claims.coveredUntil exchange.before.clock
      | .unsigned _ => true) :
    AvoidsTails demo world (.tick instant) := by
  intro exchange member claims rotates tail
  have covered := List.all_eq_true.mp clear exchange member
  rw [rotates.presented, Option.all_some, decide_eq_true_eq] at covered
  exact absurd covered (not_lt.mpr tail.1)

/-- Alice rotates her first refresh token half a second after it was issued, and waits until it has
two seconds left. -/
def refreshAndWait : List (Event ℚ) :=
  [.request registerAlice, .tick (1 / 2), .request (refreshWith aliceRefresh), .tick 604798]

def aliceWaits : World ℚ := World.new.play demo refreshAndWait

/-- Of Alice's two refresh tokens the second one is usable. -/
theorem rotation_is_exclusive_of_alice :
    (∃ exchange ∈ aliceWaits.history, exchange.Rotates aliceRefresh) ∧
      aliceWaits.RotatesExclusively := by
  have meets : World.new.Meets demo (AvoidsTails demo) refreshAndWait := by
    refine ⟨?_, avoidsTails_tick (by decide +kernel), ?_, avoidsTails_tick (by decide +kernel),
      trivial⟩
    · intro claims _ routed
      cases routed
    · intro claims _ _ presented _
      cases presented
      decide +kernel
  have reachable : ((service demo).guarded (AvoidsTails demo)).Reachable aliceWaits :=
    reachable_guarded_play World.new_starts (by decide +kernel) meets
  let early : World ℚ := World.new.play demo [.request registerAlice, .tick (1 / 2)]
  have member : early.exchange demo (refreshWith aliceRefresh) ∈ aliceWaits.history :=
    List.mem_cons_self
  have rotates : (early.exchange demo (refreshWith aliceRefresh)).Rotates aliceRefresh :=
    ⟨rfl, rfl, exists_ok (by decide +kernel)⟩
  exact ⟨⟨_, member, rotates⟩, rotation_is_exclusive aliceWaits reachable⟩

/-- Alice rotates her first refresh token half a second after it was issued, and the clock stops a
quarter of a second before it expires. -/
def aliceInTail : World ℚ :=
  World.new.play demo
    [.request registerAlice, .tick (1 / 2), .request (refreshWith aliceRefresh),
      .tick (604799 + 3 / 4)]

/-- The rotated token is usable again, next to the one that the session names. -/
theorem rotation_fails_in_tail : ¬ RotationHolds (service demo) := by
  intro holds
  have reachable : (service demo).Reachable aliceInTail :=
    reachable_play World.new_starts (by decide +kernel)
  have stored : (aliceInTail.db.sessions.find 2).any
      (fun row => row.isActive && row.refreshTokenId ≠ aliceRefresh.jti) := by decide +kernel
  obtain ⟨row, found, facts⟩ := (Option.any_eq_true _ _).mp stored
  simp only [Bool.and_eq_true, decide_eq_true_eq] at facts
  have usable : aliceInTail.Usable aliceRefresh := by
    refine World.usable_iff.mpr ⟨⟨rfl, ?_⟩, ?_⟩ <;> decide +kernel
  exact facts.2 ((holds aliceInTail reachable).current 2 row found facts.1 aliceRefresh
    (by decide +kernel) rfl rfl usable).symm

end EnterpriseAuth
