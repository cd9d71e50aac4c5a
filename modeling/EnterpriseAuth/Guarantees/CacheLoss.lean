import EnterpriseAuth.Guarantees.RevocationFlag

/-!
# Losing entries of Redis

Redis may lose any of its keys.  What an access token is rejected for is also written in the
database, but the blacklist is all that rejects a refresh token whose session goes on: the session
row names its successor, and nothing compares the two.
-/

namespace EnterpriseAuth

open Effects Program SessionService

variable {T : Type} {env : Environment T} [CommRing T] [LinearOrder T]

/-! ## When a token is accepted -/

section
variable {server : Server T}

theorem run_validateAndTouch_ok {sid userId : Uuid} (live : server.LiveSession env sid userId)
    (unflagged : ¬ server.Flagged sid) :
    ∃ row, ((validateAndTouch env sid userId).run handle server).1 = .ok row := by
  obtain ⟨row, found, owner, active, fresh⟩ := live
  cases Table.find_key found
  have absent : (server.redis.lookup server.clock (.sessionRevoked row.sessionUuid)).isSome = false :=
    by simpa [Server.Flagged] using unflagged
  obtain ⟨unexpired, recent⟩ := not_or.mp fresh
  have valid : ¬ (row.userId ≠ userId ∨ (!row.isActive) = true) := by simp [owner, active]
  have unexpired' : ¬ server.clock ≥ row.expiresAt := unexpired
  have recent' : ¬ server.clock > row.lastActivityAt + (idleTimeoutSeconds env : T) := recent
  simp only [validateAndTouch, throw_bind, run_bind, run_present, absent, Bool.false_eq_true,
    if_false, run_view, found, if_neg valid, run_now, if_neg unexpired', if_neg recent',
    run_touch env server found]
  split <;> exact ⟨_, rfl⟩

theorem run_validateAndTouch_flagged {sid userId : Uuid} (flagged : server.Flagged sid) :
    ∃ error, ((validateAndTouch env sid userId).run handle server).1 = .error error := by
  have present : (server.redis.lookup server.clock (.sessionRevoked sid)).isSome = true := flagged
  simp only [validateAndTouch, throw_bind, run_bind, run_present, present, if_true, run_throw]
  exact ⟨_, rfl⟩

/-- An admitted token comes as far as the validation of its session. -/
theorem run_getAuthContext_admitted {request : HttpRequest} {claims : Claims}
    (presented : request.accessToken = some (.signed claims)) (admits : server.Admits env claims) :
    ∃ user : User T, user.id = claims.sub ∧ (getAuthContext env request).run handle server =
      (match claims.sid with
      | none => pure { user, session := none }
      | some sid => do
        let active ← validateAndTouch env sid user.id
        return { user, session := some active } : App T (AuthContext T)).run handle server := by
  obtain ⟨user, found, active⟩ := admits.user
  have verified : (TokenService.verifyAccess (.signed claims) : App T Claims).run handle server =
      (.ok claims, server) := by
    rw [TokenService.verifyAccess, run_tryCatch, run_decodeToken_signed,
      if_neg (not_le.mpr admits.unexpired), if_neg (not_not.mpr admits.isAccess)]
  refine ⟨user, Table.find_key found, ?_⟩
  simp only [getAuthContext, presented, run_bind, verified, run_view, found, active, throw_bind]
  cases claims.sid <;> rfl

/-- An access token is accepted if it and its session are admitted and the session is not flagged. -/
theorem getAuthContext_ok_iff {request : HttpRequest} :
    (∃ context, ((getAuthContext env request).run handle server).1 = .ok context) ↔
      ∃ claims, request.accessToken = some (.signed claims) ∧ server.Admits env claims ∧
        ∀ sid, claims.sid = some sid → ¬ server.Flagged sid := by
  constructor
  · rintro ⟨context, answered⟩
    have triple : Triple handle (· = server) (getAuthContext env request)
        (fun _ _ => server.AdmitsRequest env request) fun _ _ => True :=
      triple_getAuthContext_admits server request
    obtain ⟨claims, presented, admits⟩ := triple.returned rfl (Prod.ext answered rfl)
    refine ⟨claims, presented, admits, fun sid session flagged => ?_⟩
    obtain ⟨user, -, ran⟩ := run_getAuthContext_admitted presented admits
    -- validate_and_touch reads the flag before it looks at the row
    obtain ⟨error, refused⟩ : ∃ error, ((validateAndTouch env sid user.id).run handle server).1 =
        .error error := run_validateAndTouch_flagged flagged
    rw [ran, session] at answered
    simp only [run_bind] at answered
    cases validated : (validateAndTouch env sid user.id).run handle server with
    | mk result next =>
      rw [validated] at answered refused
      cases refused
      cases answered
  · rintro ⟨claims, presented, admits, unflagged⟩
    obtain ⟨user, owner, ran⟩ := run_getAuthContext_admitted presented admits
    rw [ran]
    cases session : claims.sid with
    | none => exact ⟨_, rfl⟩
    | some sid =>
      obtain ⟨row, accepted⟩ := run_validateAndTouch_ok (owner ▸ admits.session sid session)
        (unflagged sid session)
      simp only [run_bind]
      cases validated : (validateAndTouch env sid user.id).run handle server with
      | mk result next =>
        rw [validated] at accepted
        cases accepted
        exact ⟨_, rfl⟩

end

/-! ## Rejected tokens -/

section
variable [FloorRing T] {world : World T} {token : Token} {lost : Key → Bool}

/-- The world in which Redis has lost the entries under some keys. -/
def World.losing (world : World T) (lost : Key → Bool) : World T :=
  { world with redis := world.redis.losing lost }

variable (env) in
/-- Every authenticated request that presents the token is refused. -/
def World.RejectsAccess (world : World T) (token : Token) : Prop :=
  ∀ request : HttpRequest, request.accessToken = some token →
    ∃ error, ((getAuthContext env request).run handle world.server).1 = .error error

variable (env) in
/-- Every `POST /auth/refresh` that presents the token is refused. -/
def World.RejectsRefresh (world : World T) (token : Token) : Prop :=
  ∀ request : HttpRequest, request.refreshToken = some token →
    ∃ error, ((getDb (refresh env request)).run handle world.server).1 = .error error

/-- Redis keeps what rejects the retired refresh tokens of the sessions that go on. -/
def World.KeepsRetired (world : World T) (lost : Key → Bool) : Prop :=
  ∀ claims ∈ world.issued, claims.LiveRefresh world.clock → world.server.Blacklisted claims.jti →
    (∃ row, claims.sid = some row.sessionUuid ∧ world.db.Holds row) →
    lost (.revokedJti claims.jti) = false

omit [FloorRing T] in
theorem rejectsAccess_iff : world.RejectsAccess env token ↔
    ∀ claims, token = .signed claims → world.server.Admits env claims →
      ∃ sid, claims.sid = some sid ∧ world.server.Flagged sid := by
  constructor
  · rintro rejects claims rfl admits
    by_contra unflagged
    obtain ⟨error, refused⟩ := rejects { accessToken := some (.signed claims) } rfl
    obtain ⟨context, accepted⟩ : ∃ context, ((getAuthContext env
        { accessToken := some (.signed claims) }).run handle world.server).1 = .ok context :=
      getAuthContext_ok_iff.mpr ⟨claims, rfl, admits, fun sid session flagged =>
        unflagged ⟨sid, session, flagged⟩⟩
    rw [refused] at accepted
    cases accepted
  · intro flags request presented
    cases answered : ((getAuthContext env request).run handle world.server).1 with
    | error error => exact ⟨error, rfl⟩
    | ok context =>
      obtain ⟨claims, shown, admits, unflagged⟩ := getAuthContext_ok_iff.mp ⟨context, answered⟩
      rw [presented] at shown
      obtain ⟨sid, session, flagged⟩ := flags claims (Option.some.inj shown) admits
      exact absurd flagged (unflagged sid session)

theorem rejectsRefresh_iff : world.RejectsRefresh env token ↔
    ∀ claims, token = .signed claims → ¬ world.server.Redeems claims := by
  constructor
  · rintro rejects claims rfl redeems
    obtain ⟨error, refused⟩ := rejects { refreshToken := some (.signed claims) } rfl
    obtain ⟨reply, accepted⟩ : ∃ reply, ((getDb (refresh env
        { refreshToken := some (.signed claims) })).run handle world.server).1 = .ok reply :=
      refresh_ok_iff.mpr ⟨claims, rfl, redeems⟩
    rw [refused] at accepted
    cases accepted
  · intro spent request presented
    cases answered : ((getDb (refresh env request)).run handle world.server).1 with
    | error error => exact ⟨error, rfl⟩
    | ok reply =>
      obtain ⟨claims, shown, redeems⟩ := refresh_ok_iff.mp ⟨reply, answered⟩
      rw [presented] at shown
      exact absurd redeems (spent claims (Option.some.inj shown))

omit [FloorRing T] in
/-- What the database says of a token does not depend on Redis. -/
theorem admits_losing {claims : Claims} :
    (world.losing lost).server.Admits env claims ↔ world.server.Admits env claims :=
  ⟨fun admits => ⟨admits.isAccess, admits.unexpired, admits.user, admits.session⟩,
    fun admits => ⟨admits.isAccess, admits.unexpired, admits.user, admits.session⟩⟩

/-- A flag is of a session that the database refuses too, so that no access token is let in by the
loss of one. -/
theorem rejectsAccess_losing (reachable : (service env).Reachable world)
    (rejects : world.RejectsAccess env token) : (world.losing lost).RejectsAccess env token := by
  rw [rejectsAccess_iff] at rejects ⊢
  intro claims signed admits
  obtain ⟨sid, session, flagged⟩ := rejects claims signed (admits_losing.mp admits)
  obtain ⟨row, found, inactive⟩ := flagsAgree_of_reachable (guarded_of_reachable reachable) sid flagged
  obtain ⟨stored, foundStored, -, active, -⟩ := (admits_losing.mp admits).session sid session
  rw [show world.server.working.sessions.find sid = some row from found] at foundStored
  cases foundStored
  rw [inactive] at active
  cases active

omit [CommRing T] [FloorRing T] in
theorem blacklisted_losing {jti : Uuid} : (world.losing lost).server.Blacklisted jti ↔
    lost (.revokedJti jti) = false ∧ world.server.Blacklisted jti := by
  have looked : (world.losing lost).server.redis.lookup world.clock (.revokedJti jti) =
      if lost (.revokedJti jti) then none else world.redis.lookup world.clock (.revokedJti jti) :=
    ExpiringStore.lookup_losing world.redis lost world.clock (.revokedJti jti)
  rw [Server.Blacklisted, show (world.losing lost).server.clock = world.clock from rfl, looked]
  by_cases isLost : lost (.revokedJti jti) = true
  · simp [isLost]
  · rw [if_neg isLost]
    exact ⟨fun listed => ⟨by simpa using isLost, listed⟩, And.right⟩

/-- Losing entries of Redis lets no rejected token in again exactly if Redis keeps the entries of the
retired refresh tokens whose sessions go on. -/
theorem redis_loss_reopens_nothing_iff (reachable : (service env).Reachable world) :
    (∀ token, world.holds token →
      (world.RejectsAccess env token → (world.losing lost).RejectsAccess env token) ∧
        (world.RejectsRefresh env token → (world.losing lost).RejectsRefresh env token)) ↔
      world.KeepsRetired lost := by
  constructor
  · intro closed claims owned live listed ⟨row, session, held⟩
    -- with its listing lost, a retired token of an active session would be accepted again
    by_contra isLost
    have rejects : world.RejectsRefresh env (.signed claims) := by
      rw [rejectsRefresh_iff]
      intro shown same redeems
      cases same
      exact redeems.unlisted listed
    have stays := rejectsRefresh_iff.mp ((closed (.signed claims) owned).2 rejects)
    have bound := (wellIssued_of_reachable reachable).bound claims owned (by simp [live.isRefresh])
    obtain ⟨stored, named, found, owner⟩ := bound
    refine stays claims rfl ⟨live, fun other => isLost (blacklisted_losing.mp other).1, ?_⟩
    intro sid same
    have first := Option.some.inj (session.symm.trans named)
    have second := Option.some.inj (session.symm.trans same)
    rw [← first] at found
    have rows : some row = some stored := held.1.symm.trans found
    cases rows
    exact ⟨row, second ▸ held.1, held.2, owner⟩
  · intro keeps token owned
    refine ⟨rejectsAccess_losing reachable, fun rejects => ?_⟩
    rw [rejectsRefresh_iff] at rejects ⊢
    rintro claims rfl redeems
    have listed : world.server.Blacklisted claims.jti := by
      by_contra unlisted
      exact rejects claims rfl ⟨redeems.live, unlisted, redeems.session⟩
    have named : claims.sid ≠ none :=
      (wellIssued_of_reachable reachable).session owned redeems.live.isRefresh
    obtain ⟨sid, session⟩ := Option.ne_none_iff_exists'.mp named
    obtain ⟨row, found, active, -⟩ := redeems.session sid session
    cases Table.find_key found
    have kept := keeps claims owned redeems.live listed ⟨row, session, found, active⟩
    exact redeems.unlisted (blacklisted_losing.mpr ⟨kept, listed⟩)

end

/-- All of Redis but the blacklist. -/
def allButBlacklist : Key → Bool
  | .revokedJti _ => false
  | _ => true

theorem alice_rejectsRefresh : aliceRotated.RejectsRefresh demo (.signed aliceRefresh) := by
  rw [rejectsRefresh_iff]
  rintro claims same redeems
  cases same
  exact redeems.unlisted (by decide +kernel)

theorem redis_loss_reopens_nothing_of_alice :
    (aliceRotated.losing allButBlacklist).RejectsRefresh demo (.signed aliceRefresh) := by
  have reachable : (service demo).Reachable aliceRotated :=
    reachable_play World.new_starts (by decide +kernel)
  have closed := (redis_loss_reopens_nothing_iff reachable).mpr
    (show aliceRotated.KeepsRetired allButBlacklist from fun _ _ _ _ _ => rfl)
  exact (closed (.signed aliceRefresh) (by decide +kernel)).2 alice_rejectsRefresh

/-- Alice's rotated refresh token is good again once its entry of the blacklist is lost. -/
theorem redis_loss_reopens_token :
    ¬ ∀ (world : World ℚ) (lost : Key → Bool) (token : Token), (service demo).Reachable world →
      world.holds token → world.RejectsRefresh demo token →
      (world.losing lost).RejectsRefresh demo token := by
  intro closed
  have stays := closed aliceRotated (fun key => key = .revokedJti 4) (.signed aliceRefresh)
    (reachable_play World.new_starts (by decide +kernel)) (by decide +kernel) alice_rejectsRefresh
  obtain ⟨error, refused⟩ := stays { refreshToken := some (.signed aliceRefresh) } rfl
  have accepted : ((getDb (refresh demo { refreshToken := some (.signed aliceRefresh) })).run handle
      (aliceRotated.losing fun key => key = .revokedJti 4).server).1.isOk := by
    decide +kernel
  rw [refused] at accepted
  cases accepted

end EnterpriseAuth
