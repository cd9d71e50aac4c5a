import EnterpriseAuth.Guarantees.Origin

/-!
# Refresh tokens on the blacklist

An entry of the blacklist can only be shortened by a request that retires the same token once more.
`Server.Bars` says that no request can: the sessions that point at the token are over, or there are
none, and a client that presents the token finds it listed.
-/

namespace EnterpriseAuth

open Effects Program SessionService

variable {T : Type} {env : Environment T}

/-! ## The sessions that point at a token -/

/-- Every session of the table that points at the refresh token is of the kind. -/
def PointedAt (kind : Session T → Prop) (table : Table (Session.sessionUuid (T := T))) (jti : Uuid) :
    Prop :=
  ∀ sid row, table.find sid = some row → row.refreshTokenId = jti → kind row

/-- Sessions of the kind are over and stay of the kind. -/
class Over (kind : Session T → Prop) : Prop where
  inactive : ∀ {row}, kind row → row.isActive = false
  touched : ∀ {row now}, kind row → kind (touched now row)
  ended : ∀ {row now reason}, kind row → kind (ended now reason row)

instance : Over (fun _ : Session T => False) := ⟨nofun, id, id⟩
instance : Over (fun row : Session T => row.isActive = false) := ⟨id, id, fun _ => rfl⟩

namespace PointedAt

variable {kind : Session T → Prop} {table : Table (Session.sessionUuid (T := T))} {jti : Uuid}

theorem modify (pointed : PointedAt kind table jti) (sid : Uuid) (change : Session T → Session T)
    (keeps : ∀ row, (change row).sessionUuid = row.sessionUuid)
    (changed : ∀ row, table.find sid = some row → (change row).refreshTokenId = jti →
      row.refreshTokenId = jti ∧ (kind row → kind (change row))) :
    PointedAt kind (table.modify sid change keeps) jti := by
  intro other row found points
  rw [Table.find_modify] at found
  by_cases here : other = sid
  · rw [if_pos here] at found
    obtain ⟨earlier, stored, rfl⟩ := Option.map_eq_some_iff.mp found
    obtain ⟨pointedBefore, stays⟩ := changed earlier (here ▸ stored) points
    exact stays (pointed other earlier stored pointedBefore)
  · rw [if_neg here] at found
    exact pointed other row found points

theorem insert (pointed : PointedAt kind table jti)
    {extended : Table (Session.sessionUuid (T := T))} {added : Session T}
    (inserted : table.insert added = some extended) (differs : added.refreshTokenId ≠ jti) :
    PointedAt kind extended jti := by
  intro sid row found points
  rw [Table.find_insert inserted] at found
  by_cases here : sid = added.sessionUuid
  · rw [if_pos here] at found
    obtain rfl : added = row := Option.some.inj found
    exact absurd points differs
  · rw [if_neg here] at found
    exact pointed sid row found points

/-- An active session points at another token. -/
theorem differs [Over kind] (pointed : PointedAt kind table jti) {sid : Uuid} {row : Session T}
    (found : table.find sid = some row) (active : row.isActive = true) :
    row.refreshTokenId ≠ jti := by
  intro points
  have inactive := Over.inactive (pointed sid row found points)
  rw [active] at inactive
  cases inactive

end PointedAt

/-! ## One request -/

section
variable [LinearOrder T] {kind : Session T → Prop} {jti : Uuid} {bound : T}

/-- The token is on the blacklist until the bound, and every session that points at it is of the
kind. -/
structure Server.Bars (server : Server T) (kind : Session T → Prop) (jti : Uuid) (bound : T) :
    Prop where
  listed : server.redis.HoldsUntil (.revokedJti jti) bound
  working : PointedAt kind server.working.sessions jti
  committed : PointedAt kind server.committed.sessions jti

theorem Server.Bars.blacklist {server : Server T} {other : Uuid} (bars : server.Bars kind jti bound)
    (deadline : T) (different : other ≠ jti) :
    (server.blacklist other deadline).Bars kind jti bound where
  listed := bars.listed.put_other _ fun same => different (Key.revokedJti.inj same).symm
  working := bars.working
  committed := bars.committed

theorem Server.Bars.aside {frame : Frame T} {before after : Server T}
    (bars : before.Bars kind jti bound) (aside : Aside frame before after)
    (sessions : after.working.sessions = before.working.sessions) :
    after.Bars kind jti bound where
  listed := bars.listed.congr (aside.blacklist jti)
  working := by rw [sessions]; exact bars.working
  committed := by rw [aside.committed]; exact bars.committed

theorem Server.Bars.commit {server : Server T} (bars : server.Bars kind jti bound) :
    server.commit.Bars kind jti bound :=
  ⟨bars.listed, bars.working, bars.working⟩

variable [CommRing T] [Over kind]

theorem Follows.bars {permits : Permits T} {before after : Server T}
    (follows : Follows env permits before after) (bars : before.Bars kind jti bound)
    (creates : ∀ row, permits.creates row → row.refreshTokenId ≠ jti)
    (blacklists : ¬ permits.blacklists jti) : after.Bars kind jti bound := by
  refine follows.invariant (fun server => server.Bars kind jti bound) bars ?_
  intro first second bars effect
  cases effect with
  | aside aside => exact bars.aside aside aside.working
  | commit => exact bars.commit
  | touch =>
    exact { bars with
      working := bars.working.modify _ (touched first.clock) (fun _ => rfl) fun _ _ points =>
        ⟨points, Over.touched⟩ }
  | finish reason =>
    exact { bars with
      working := bars.working.modify _ (ended first.clock reason) (fun _ => rfl) fun _ _ points =>
        ⟨points, Over.ended⟩ }
  | retire deadline found active => exact bars.blacklist _ (bars.working.differs found active)
  | blacklist permitted => exact bars.blacklist _ fun same => blacklists (same ▸ permitted)
  | create permitted _ _ inserted =>
    exact { bars with working := bars.working.insert inserted (creates _ permitted) }

variable [FloorRing T]

omit [Over kind] in
theorem Server.Bars.rotated {server : Server T} (bars : server.Bars kind jti bound) {claims : Claims}
    (different : claims.jti ≠ jti) : (server.rotated claims).Bars kind jti bound := by
  have revoked : (server.revokeToken claims).Bars kind jti bound := by
    unfold Server.revokeToken
    dsimp only
    split
    · exact bars.blacklist _ different
    · exact bars
  exact ⟨revoked.listed, revoked.working, revoked.committed⟩

/-- A refresh bars every token still that it does not accept itself. -/
theorem RefreshOutcome.bars {start final : Server T} {request : HttpRequest}
    {result : Except AppError (Reply T)} (outcome : RefreshOutcome env start request result final)
    (bars : start.Bars kind jti bound) (old : jti < start.draws)
    (others : ∀ claims, request.refreshToken = some (.signed claims) →
      claims.LiveRefresh start.clock → ¬ start.Blacklisted claims.jti → claims.jti ≠ jti) :
    final.Bars kind jti bound := by
  cases outcome with
  | refused => exact bars
  | @replayed claims =>
    obtain same | ⟨row, -, held, same⟩ := afterReplay_cases env start claims
    · rw [same]
      exact bars
    · let ending : Permits T := { Permits.none with writes := fun _ => True }
      have followed : Follows env ending start (start.revoke env row "refresh_replay") :=
        follows_revoke _ held.1 held.2 trivial
      rw [same]
      exact (followed.bars bars (fun _ creates => creates.elim) id).commit
  | unbound presented live unlisted => exact bars.rotated (others _ presented live unlisted)
  | @rebound claims sid row presented live unlisted =>
    have revoked := bars.rotated (others _ presented live unlisted)
    refine ⟨revoked.listed.put_other _ Key.noConfusion, ?_, revoked.committed⟩
    refine revoked.working.modify sid (SessionService.rebound start.clock (start.draws + 1))
      (fun _ => rfl) ?_
    -- the session now points at a token that had not been drawn
    intro row found points
    exact absurd points (Nat.lt_succ_of_lt old).ne'
  | sessionless presented live unlisted =>
    have revoked := bars.rotated (others _ presented live unlisted)
    exact ⟨revoked.listed, revoked.working, revoked.committed⟩

variable {world : World T} {arrival : Arrival}

/-- A request bars every token still, unless it presents the token and finds it usable. -/
theorem bars_afterRequest (bars : world.server.Bars kind jti bound) (old : jti < world.draws)
    (others : ∀ claims, arrival.http.refreshToken = some (.signed claims) →
      claims.LiveRefresh world.clock → ¬ world.server.Blacklisted claims.jti → claims.jti ≠ jti) :
    (world.afterRequest env arrival).server.Bars kind jti bound := by
  have atRoute {limited : Server T} (aside : Aside .reads world.server limited) :
      limited.Bars kind jti bound :=
    bars.aside aside (congrArg Database.sessions aside.working)
  have othersAt {limited : Server T} (passes : world.Passes env arrival limited) (claims : Claims)
      (presented : arrival.http.refreshToken = some (.signed claims))
      (live : claims.LiveRefresh limited.clock) (unlisted : ¬ limited.Blacklisted claims.jti) :
      claims.jti ≠ jti := by
    rw [passes.start.2.2.1] at live
    rw [passes.aside.blacklisted] at unlisted
    exact others claims presented live unlisted
  -- new rows point at identifiers drawn in this request, which are newer than the barred one
  have followed {limited final : Server T} (passes : world.Passes env arrival limited)
      (follows : Follows env (arrival.permits env limited) limited final) :
      final.Bars kind jti bound := by
    refine follows.bars (atRoute passes.aside) (fun row permitted => ?_) fun permitted => ?_
    · obtain ⟨route, -, opened, -⟩ := Arrival.creates permitted
      have fresh := old.trans_le (passes.start.2.2.2.trans opened.fresh)
      rw [opened.refreshTokenId]
      exact (fresh.trans_le (Nat.le_add_right _ 2)).ne'
    · unfold Arrival.permits at permitted
      split at permitted
      next => exact permitted
      next =>
        obtain ⟨claims, presented, same, live, unlisted⟩ := permitted
        exact othersAt passes claims presented live (same ▸ unlisted) same
      all_goals exact permitted
  have refreshed {limited final : Server T} {result : Except AppError (Reply T)}
      (passes : world.Passes env arrival limited)
      (outcome : RefreshOutcome env limited arrival.http result final) :
      final.Bars kind jti bound :=
    outcome.bars (atRoute passes.aside) (old.trans_le passes.start.2.2.2) (othersAt passes)
  have served := served env world arrival
  have kept : (world.exchange env arrival).after.redis.HoldsUntil (.revokedJti jti) bound ∧
      PointedAt kind (world.exchange env arrival).after.committed.sessions jti := by
    generalize (world.exchange env arrival).reply = result at served
    generalize (world.exchange env arrival).after = after at served ⊢
    cases served with
    | refused aside _ => exact ⟨(atRoute aside).listed, (atRoute aside).committed⟩
    | failed passes _ follows =>
      exact ⟨(followed passes follows).listed, (followed passes follows).committed⟩
    | answered passes _ follows _ =>
      exact ⟨(followed passes follows).listed, (followed passes follows).working⟩
    | refreshFailed passes _ outcome =>
      exact ⟨(refreshed passes outcome).listed, (refreshed passes outcome).committed⟩
    | refreshAnswered passes _ outcome =>
      exact ⟨(refreshed passes outcome).listed, (refreshed passes outcome).working⟩
  exact ⟨kept.1, kept.2, kept.2⟩

end

end EnterpriseAuth
